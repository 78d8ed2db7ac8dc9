/-!
# Diagram fragments

A sequence diagram is a list of fragments: arrows between participants, and groups of
alternative or repeated sections that hold fragments again.
-/

namespace Ripple

/-- A message sent from one participant to another. -/
structure Arrow where
  source : String
  target : String
  label : String
  color : String
deriving DecidableEq, Repr, Inhabited

/-- What a group of sections comes from. -/
inductive GroupKind where
  | forEach
  | case
  | conditional
deriving DecidableEq, Repr, Inhabited

/-- One section of a group. The first section of a group names its kind; in the later ones
`group` is absent, and they are shown as `else`. -/
structure Section (φ : Type) where
  group : Option GroupKind
  label : String
  fragments : List φ

/-- One element of a diagram. -/
inductive Fragment where
  | arrow (arrow : Arrow)
  | alt (sections : List (Section Fragment))

namespace Fragment

instance : Inhabited Fragment := ⟨.alt []⟩

mutual

/-- The arrows of a fragment, depth first, in source order. -/
def arrows : Fragment → List Arrow
  | .arrow a => [a]
  | .alt sections => arrowsOfSections sections

/-- The arrows of a list of fragments. -/
def arrowsOf : List Fragment → List Arrow
  | [] => []
  | fragment :: rest => fragment.arrows ++ arrowsOf rest

/-- The arrows of the sections of a group. -/
def arrowsOfSections : List (Section Fragment) → List Arrow
  | [] => []
  | ⟨_, _, fragments⟩ :: rest => arrowsOf fragments ++ arrowsOfSections rest

end

/-- Whether a fragment is an arrow. -/
def isArrow : Fragment → Bool
  | .arrow _ => true
  | .alt _ => false

/-- Changes the source of the first arrow that stands outside groups; nothing if there is
none. -/
def withFirstSource (source : String) : List Fragment → List Fragment
  | [] => []
  | .arrow a :: rest => .arrow { a with source } :: rest
  | .alt sections :: rest => .alt sections :: withFirstSource source rest

/-- Makes a group of the sections that hold something, the first of which names the kind. No
such section, no group. -/
def group (kind : GroupKind) (sections : List (String × List Fragment)) : List Fragment :=
  match sections.filter (!·.2.isEmpty) with
  | [] => []
  | (label, fragments) :: rest =>
    [.alt (⟨some kind, label, fragments⟩ ::
      rest.map fun (label, fragments) => ⟨none, label, fragments⟩)]

end Fragment

end Ripple
