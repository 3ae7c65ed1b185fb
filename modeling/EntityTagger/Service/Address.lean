import EntityTagger.Text

/-!
Addresses: the path that the target of a request leads to. It is the same for all targets that
differ in a host, a query, slashes at the end, segments that go nowhere, or escapes.
-/

namespace EntityTagger.Service.Address

/-- A target without the host that it may name after two slashes. -/
def withoutHost : Text → Text
  | 47 :: 47 :: rest => rest.dropWhile (· != 47)
  | target => target

/-- Walks on to one more segment; the segments so far are held backwards. One dot stays, and two
go back, but not above the root. -/
def walk (path : List Text) (segment : Text) : List Text :=
  if segment = text "." then path
  else if segment = text ".." then
    if path = [[]] then path else path.drop 1
  else segment :: path

/-- A path without the segments that stay or go back. -/
def resolve (path : Text) : Text :=
  Text.join (text "/") ((Text.splitAt 47 path).foldl walk []).reverse

/-- A text with its escapes undone: a percent sign and two hexadecimal digits for an ASCII
character. Any other escape is kept, for no route holds its character. -/
def unescape : Text → Text
  | 37 :: high :: low :: rest =>
    match Text.hexValue? high, Text.hexValue? low with
    | some h, some l =>
      if h < 8 then (16 * h + l) :: unescape rest else 37 :: high :: low :: unescape rest
    | _, _ => 37 :: unescape (high :: low :: rest)
  | c :: rest => c :: unescape rest
  | [] => []

/-- The path that a target leads to, without slashes at its end, so that the root is empty. Escapes
are undone last, and twice, so that an escaped escape is one as well. -/
def path (target : Text) : Text :=
  let given := withoutHost (target.takeWhile fun c => c != 63 && c != 35)
  let resolved := resolve (47 :: given.dropWhile (· == 47))
  ((unescape (unescape resolved)).reverse.dropWhile (· == 47)).reverse

end EntityTagger.Service.Address
