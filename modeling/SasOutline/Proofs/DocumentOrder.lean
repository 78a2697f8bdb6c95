import SasOutline.NodeTree

/-!
# Nodes in document order

The objects of a tree are collected by a walk that keeps its unfinished levels.
They are the nodes that remain when every macro definition is replaced by its
contents, in the order of the text.
-/

namespace SasOutline

/-- The nodes of a tree with its macro definitions opened up. -/
def documentOrder : List (Spanned Node) → List (Spanned Node)
  | [] => []
  | ⟨.macroDefinition _ contents _, _⟩ :: rest => documentOrder contents ++ documentOrder rest
  | item :: rest => item :: documentOrder rest

theorem objectsOfLevels_eq (levels : List (List (Spanned Node))) :
    objectsOfLevels levels = levels.flatMap documentOrder := by
  fun_induction objectsOfLevels levels with
  | case1 => rfl
  | case2 levels ih => simp [documentOrder, ih]
  | case3 heading contents terminated span rest levels ih =>
      simp [documentOrder, ih]
  | case4 item rest levels hleaf ih =>
      simp only [List.flatMap_cons] at ih ⊢
      rw [documentOrder, ih, List.cons_append]
      exact hleaf

theorem objects_eq_documentOrder (nodes : List (Spanned Node)) :
    objects nodes = documentOrder nodes := by
  unfold objects
  rw [objectsOfLevels_eq]
  simp

end SasOutline
