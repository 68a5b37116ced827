/-!
# Addresses of requests

A client may have a base address. An endpoint that is an absolute address stays as it is;
any other is put behind the base, with one slash between them.
-/

namespace Storyboard

namespace Http

/-- Whether an endpoint is an absolute address. -/
def isAbsolute (endpoint : String) : Bool :=
  endpoint.startsWith "http://" || endpoint.startsWith "https://"

/-- A text without the slashes at its end. -/
def trimEnd (text : String) : String :=
  String.ofList (text.toList.reverse.dropWhile (· == '/')).reverse

/-- A text without the slashes at its start. -/
def trimStart (text : String) : String :=
  String.ofList (text.toList.dropWhile (· == '/'))

/-- The address that an endpoint stands for. -/
def address (base : Option String) (endpoint : String) : String :=
  if isAbsolute endpoint then endpoint
  else
    match base with
    | some base => trimEnd base ++ "/" ++ trimStart endpoint
    | none => endpoint

end Http

end Storyboard
