import FillInStory.Text.Basic

/-! # What requests ask for

The target of a request is a path with an optional query. A scheme and a host may stand in front, as in
what is asked of a proxy; they decide nothing here but belong to the target as it is logged. A fragment
at the end is dropped.
-/

namespace FillInStory

/-- Where a target is to be found: the scheme and the host with its port, as in `http://localhost:8000`. -/
structure Site where
  scheme : Text
  host : Text
  deriving DecidableEq, Repr

/-- What a request asks for. A query may be empty although it is there. -/
structure Target where
  site : Option Site
  path : Text
  query : Option Text
  deriving DecidableEq, Repr

namespace Site

def isSchemeChar (c : Char) : Bool := c.isAlphanum || "+-.".toList.contains c

/-- Whether a character may stand in a host: all but those that begin the path or the query. -/
def isHostChar (c : Char) : Bool := c != '/' && c != '?'

/-- The name of a scheme as it is shown: small letters for the two schemes of the web, else as written. -/
def schemeName (written : Text) : Text :=
  let small := Text.lowerCase written
  if small = "http".toList || small = "https".toList then small else written

/-- The site that a target begins with, if any, and what follows it. -/
def split (t : Text) : Option Site × Text :=
  match Text.after? "://" (t.dropWhile isSchemeChar) with
  | none => (none, t)
  | some rest =>
    (some ⟨schemeName (t.takeWhile isSchemeChar), rest.takeWhile isHostChar⟩, rest.dropWhile isHostChar)

def text (s : Site) : Text := s.scheme ++ "://" ++ s.host

end Site

namespace Target

/-- Reads a target. A site without a path has the path of the root. -/
def ofText (t : Text) : Target :=
  let (site, rest) := Site.split (Text.cut '#' t).1
  let (path, query) := Text.cut '?' rest
  ⟨site, if site.isSome && path.isEmpty then "/" else path, query⟩

def text (t : Target) : Text :=
  (match t.site with
    | some site => site.text
    | none => [])
    ++ t.path
    ++ (match t.query with
      | some query => '?' :: query
      | none => [])

/-- The target with its path counted from below the first `n` characters. -/
def below (t : Target) (n : Nat) : Target := { t with path := t.path.drop n }

end Target

end FillInStory
