import SasOutline.Node

/-!
# Decidable equality of nodes

Macro definitions hold lists of nodes, so equality is decided by a comparison
that descends into those lists.  The comparison agrees with equality.
-/

namespace SasOutline

mutual

def sameNode : Node → Node → Bool
  | .newline, .newline => true
  | .comment first, .comment second => first == second
  | .macroVariable first, .macroVariable second => first == second
  | .inclusion first, .inclusion second => first == second
  | .libraryBinding first, .libraryBinding second => first == second
  | .dataStep first, .dataStep second => first == second
  | .procedure first, .procedure second => first == second
  | .sqlStatement first, .sqlStatement second => first == second
  | .macroStart first, .macroStart second => first == second
  | .macroEnd, .macroEnd => true
  | .macroDefinition heading contents terminated,
      .macroDefinition heading' contents' terminated' =>
      heading == heading' && sameNodes contents contents' && terminated == terminated'
  | .macroCall first, .macroCall second => first == second
  | _, _ => false

def sameItem : Spanned Node → Spanned Node → Bool
  | ⟨first, span⟩, ⟨second, span'⟩ => span == span' && sameNode first second

def sameNodes : List (Spanned Node) → List (Spanned Node) → Bool
  | [], [] => true
  | first :: rest, second :: rest' => sameItem first second && sameNodes rest rest'
  | _, _ => false

end

mutual

theorem sameNode_iff : ∀ first second : Node, sameNode first second = true ↔ first = second
  | .newline, second => by cases second <;> simp [sameNode]
  | .comment _, second => by cases second <;> simp [sameNode]
  | .macroVariable _, second => by cases second <;> simp [sameNode]
  | .inclusion _, second => by cases second <;> simp [sameNode]
  | .libraryBinding _, second => by cases second <;> simp [sameNode]
  | .dataStep _, second => by cases second <;> simp [sameNode]
  | .procedure _, second => by cases second <;> simp [sameNode]
  | .sqlStatement _, second => by cases second <;> simp [sameNode]
  | .macroStart _, second => by cases second <;> simp [sameNode]
  | .macroEnd, second => by cases second <;> simp [sameNode]
  | .macroDefinition heading contents terminated, second => by
    cases second with
    | macroDefinition heading' contents' terminated' =>
      simp [sameNode, sameNodes_iff contents contents', and_assoc]
    | _ => simp [sameNode]
  | .macroCall _, second => by cases second <;> simp [sameNode]

theorem sameItem_iff : ∀ first second : Spanned Node,
    sameItem first second = true ↔ first = second
  | ⟨node, span⟩, ⟨node', span'⟩ => by
    simp only [sameItem, Bool.and_eq_true, beq_iff_eq, sameNode_iff node node',
      Spanned.mk.injEq]
    exact And.comm

theorem sameNodes_iff : ∀ first second : List (Spanned Node),
    sameNodes first second = true ↔ first = second
  | [], second => by cases second <;> simp [sameNodes]
  | item :: rest, second => by
    cases second with
    | nil => simp [sameNodes]
    | cons item' rest' =>
      simp only [sameNodes, Bool.and_eq_true, sameItem_iff item item',
        sameNodes_iff rest rest', List.cons.injEq]

end

instance : DecidableEq Node := fun first second =>
  decidable_of_iff (sameNode first second = true) (sameNode_iff first second)

end SasOutline
