import RpcGuard.Text.Quoted

/-!
# Faults in the search for a key

Why there is no key for a token, in words for the log: nobody has the key, or the keys could not be
fetched.
-/

namespace RpcGuard

/-- A reason why a fetch failed. -/
inductive FetchFault where
  /-- Nobody answered. -/
  | unreachable
  /-- The answer has a status that is not a success. -/
  | status (code : Nat)
  /-- The body of the answer is no key document. -/
  | body
  /-- A reason in words. -/
  | reported (message : String)
  deriving DecidableEq, Repr

/-- The names of HTTP statuses. -/
def statusName : Nat → String
  | 100 => "Continue" | 101 => "Switching Protocols" | 102 => "Processing"
  | 200 => "OK" | 201 => "Created" | 202 => "Accepted" | 203 => "Non Authoritative Information"
  | 204 => "No Content" | 205 => "Reset Content" | 206 => "Partial Content"
  | 207 => "Multi-Status" | 208 => "Already Reported" | 226 => "IM Used"
  | 300 => "Multiple Choices" | 301 => "Moved Permanently" | 302 => "Found" | 303 => "See Other"
  | 304 => "Not Modified" | 305 => "Use Proxy" | 307 => "Temporary Redirect"
  | 308 => "Permanent Redirect"
  | 400 => "Bad Request" | 401 => "Unauthorized" | 402 => "Payment Required" | 403 => "Forbidden"
  | 404 => "Not Found" | 405 => "Method Not Allowed" | 406 => "Not Acceptable"
  | 407 => "Proxy Authentication Required" | 408 => "Request Timeout" | 409 => "Conflict"
  | 410 => "Gone" | 411 => "Length Required" | 412 => "Precondition Failed"
  | 413 => "Payload Too Large" | 414 => "URI Too Long" | 415 => "Unsupported Media Type"
  | 416 => "Range Not Satisfiable" | 417 => "Expectation Failed" | 418 => "I'm a teapot"
  | 421 => "Misdirected Request" | 422 => "Unprocessable Entity" | 423 => "Locked"
  | 424 => "Failed Dependency" | 425 => "Too Early" | 426 => "Upgrade Required"
  | 428 => "Precondition Required"
  | 429 => "Too Many Requests" | 431 => "Request Header Fields Too Large"
  | 451 => "Unavailable For Legal Reasons"
  | 500 => "Internal Server Error" | 501 => "Not Implemented" | 502 => "Bad Gateway"
  | 503 => "Service Unavailable" | 504 => "Gateway Timeout"
  | 505 => "HTTP Version Not Supported" | 506 => "Variant Also Negotiates"
  | 507 => "Insufficient Storage" | 508 => "Loop Detected" | 510 => "Not Extended"
  | 511 => "Network Authentication Required"
  | _ => "<unknown status code>"

/-- The fault in words. -/
def FetchFault.message : FetchFault → String
  | unreachable => "JWKS fetch failed"
  | status code =>
    "JWKS endpoint returned non-success status: " ++ code.repr ++ " " ++ statusName code
  | body => "failed to parse JWKS response"
  | reported message => message

/-- A reason why there is no key for a token. -/
inductive KeyFault where
  /-- No key has the key id. -/
  | unknownKid (kid : Option String)
  /-- The guard has no source of keys. -/
  | unconfigured
  | fetch (fault : FetchFault)
  deriving DecidableEq, Repr

/-- The fault in words. -/
def KeyFault.message : KeyFault → String
  | unknownKid kid => "no key found for kid " ++ Text.quoted? kid
  | unconfigured => "no trust source configured"
  | fetch fault => fault.message

end RpcGuard
