import Gatehouse.Http.HeaderValue
import Gatehouse.Link.Stamp

/-!
# Decorating outbound links

Filters leave decorations on a response. Every link that the handler writes is given all of them,
in the order in which they were left; so is the target of a redirect.
-/

namespace Gatehouse

/-- A change that a filter makes to outbound links. -/
inductive Decoration where
  /-- Stamps a link with a token under a parameter name. -/
  | stamp (parameter token : String)
  /-- Writes a text behind a link, and another behind the target of a redirect. -/
  | affix (link redirect : String)
  deriving DecidableEq, Repr

namespace Decoration

def encodeUrl (decoration : Decoration) (url : String) : String :=
  match decoration with
  | .stamp parameter token => Link.stamp url parameter token
  | .affix text _ => url ++ text

def encodeRedirectUrl (decoration : Decoration) (url : String) : String :=
  match decoration with
  | .stamp parameter token => Link.stamp url parameter token
  | .affix _ text => url ++ text

end Decoration

/-- The decorations left on a response, the first one first. -/
structure Links where
  decorations : List Decoration
  deriving DecidableEq, Repr

namespace Links

def plain : Links := ⟨[]⟩

def wrap (links : Links) (decoration : Decoration) : Links := ⟨links.decorations ++ [decoration]⟩

def isIdentity (links : Links) : Bool := links.decorations.isEmpty

def encodeUrl (links : Links) (url : String) : String :=
  links.decorations.foldl (fun url decoration => decoration.encodeUrl url) url

def encodeRedirectUrl (links : Links) (url : String) : String :=
  links.decorations.foldl (fun url decoration => decoration.encodeRedirectUrl url) url

/-- The `Location` value of a redirect, if it is a legal header value. -/
def location? (links : Links) (url : String) : Option String :=
  let target := links.encodeRedirectUrl url
  if HeaderValue.isLegalText target then some target else none

@[simp] theorem encodeUrl_plain (url : String) : plain.encodeUrl url = url := rfl

@[simp] theorem encodeUrl_wrap (links : Links) (decoration : Decoration) (url : String) :
    (links.wrap decoration).encodeUrl url = decoration.encodeUrl (links.encodeUrl url) := by
  simp [encodeUrl, wrap]

end Links

end Gatehouse
