import TokenDesk.Url.Read

/-!
Addresses that are made from others: the address with another path, and the one that a relative path
leads to. Either path is read like the path of a written address, so its dot segments are resolved
and its characters encoded, whether or not that has been done before.
-/

namespace TokenDesk.Url

/-- The address with another path. What would begin a query or a fragment is encoded and belongs to
the path. A plain path never begins with a slash, so a slash at its start is encoded, too. -/
def withPath (u : Url) (text : List Char) : Url :=
  match u.path with
  | .plain _ =>
    let path := match text with
      | '/' :: rest => "%2F".toList ++ percentEncode "" (withoutBreaks rest)
      | _ => percentEncode "" (withoutBreaks text)
    { u with path := .plain path }
  | .segments _ =>
    { u with path := .segments (readPath (isSpecial u.scheme) (withoutBreaks text)) }

/-- The address that a relative path leads to. It is read from the place of the base's last segment,
and has a query and a fragment of its own or none. -/
def follow (base : Url) (text : List Char) : Except ReadError Url :=
  match base.path with
  | .plain _ => .error .plainBase
  | .segments parts =>
    let special := isSpecial base.scheme
    let (path, query, fragment) := readEnding special (cleaned text)
    let segments := readSegments special parts.dropLast [] path
    .ok { base with path := .segments segments, query := query, fragment := fragment }

end TokenDesk.Url
