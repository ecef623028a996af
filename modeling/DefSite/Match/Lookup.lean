import DefSite.Match.Inquiry
import DefSite.Match.Catalogue

/-!
# Looking up methods by name

A method is looked up on a module or a class as it is stored there.  On modules every attribute is a
function; on classes the stored object tells class methods and static methods from plain ones.  What
is looked for is then the variant that the catalogue holds under that name.  Of several faults the
first one met is reported: no such attribute, a scope of the wrong type, no such variant, a loop of
wrappers.
-/

namespace DefSite

namespace Live.Heap

variable {n : Nat}

/-- The name of the variant that an attribute of a scope belongs to. -/
def variantName (h : Heap n) (scope : Fin n) (found : Attribute (Fin n)) :
    Except Fault String :=
  match h scope with
  | .module .. => .ok "function"
  | _ =>
    if !h.isClass scope then .error (.notAScope (h.typeName scope))
    else match found with
      | .stored r => match h r with
        | .classMethod _ => .ok "classmethod"
        | .staticMethod _ => .ok "staticmethod"
        | _ => .ok "instance"
      | .static .. => .ok "staticmethod"
      | .slot .. | .data .. | .value _ => .ok "instance"

end Live.Heap

namespace Query

/-- The query for a named attribute of a scope. -/
def ofAttribute {n : Nat} (h : Live.Heap n) (scope : Fin n) (name : String)
    (catalogue : Catalogue) : Except Fault Query := do
  match h.lookup scope name with
  | none => throw (.noAttribute name)
  | some found =>
    let variant ← catalogue.get (← h.variantName scope found)
    return ⟨h.scope scope, ← h.attributeMethod found, variant⟩

def shown (q : Query) : String :=
  s!"MethodMatcher({q.method.text}, variant={Text.quotedString q.variant.name})"

end Query

end DefSite
