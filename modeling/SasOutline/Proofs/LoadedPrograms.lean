import SasOutline.Proofs.LineageLines

/-!
# Programs loaded from files

Loading a file reads it, decodes it, parses the text and then fills in where the paths of
the program lead.  There are two ways to fail: the file cannot be read, or its bytes are
no UTF-8.  A path that leads nowhere is no failure.

Filling in goes through the whole tree and touches nothing but the places.  So the tree
without its places is that of the parsed text, and every place in it is the answer of the
file system for the path beside it.
-/

namespace SasOutline

/-! ## Places in a tree -/

namespace Node

/-- The path of an inclusion or of a library that is a directory. -/
def location? : Node → Option String
  | .inclusion statement => some statement.path
  | .libraryBinding ⟨_, .path location, _⟩ => some location
  | _ => none

/-- The place that a node carries for its path. -/
def place? : Node → Option String
  | .inclusion statement => statement.resolved
  | .libraryBinding binding => binding.resolved
  | _ => none

/-- A node that is neither an inclusion nor a library has no room for a place. -/
def withPlace (place : Option String) : Node → Node
  | .inclusion statement => .inclusion ⟨statement.path, place⟩
  | .libraryBinding binding => .libraryBinding ⟨binding.library, binding.target, place⟩
  | node => node

/-- The places of the node are the answers of `resolve`: an inclusion and a library that is
a directory carry the one for their path, and a library that stands for another one
carries none. -/
def PlacedBy (resolve : String → Option String) : Node → Prop
  | .inclusion statement => statement.resolved = resolve statement.path
  | .libraryBinding ⟨_, .path location, resolved⟩ => resolved = resolve location
  | .libraryBinding ⟨_, .pointer _, resolved⟩ => resolved = none
  | _ => True

theorem kind_withPlace (place : Option String) (node : Node) :
    (node.withPlace place).kind = node.kind := by
  cases node <;> rfl

theorem withPlace_withPlace (first second : Option String) (node : Node) :
    (node.withPlace first).withPlace second = node.withPlace second := by
  cases node <;> rfl

theorem withPlace_place? (node : Node) : node.withPlace node.place? = node := by
  cases node <;> rfl

theorem placedBy_withPlace (resolve : String → Option String) (node : Node) :
    (node.withPlace (node.location?.bind resolve)).PlacedBy resolve := by
  cases node with
  | inclusion statement => rfl
  | libraryBinding binding =>
      obtain ⟨library, target, resolved⟩ := binding
      cases target <;> rfl
  | _ => trivial

theorem placedBy_of_macroDefinition {resolve : String → Option String} {node : Node}
    (h : node.kind = .macroDefinition) : node.PlacedBy resolve := by
  cases node <;> simp only [kind, reduceCtorEq] at h
  trivial

end Node

/-- The item with the place that `resolve` finds for its path. -/
def Spanned.placed (resolve : String → Option String) (item : Spanned Node) : Spanned Node :=
  ⟨item.node.withPlace (item.node.location?.bind resolve), item.span⟩

/-- The tree without its places, at any depth. -/
def withoutPlaces : List (Spanned Node) → List (Spanned Node)
  | [] => []
  | ⟨.macroDefinition heading contents terminated, span⟩ :: rest =>
      ⟨.macroDefinition heading (withoutPlaces contents) terminated, span⟩ ::
        withoutPlaces rest
  | item :: rest => ⟨item.node.withPlace none, item.span⟩ :: withoutPlaces rest

section Leaf

variable {item : Spanned Node} (hleaf : item.kind ≠ .macroDefinition)
  (rest : List (Spanned Node))

include hleaf

theorem withoutPlaces_leaf :
    withoutPlaces (item :: rest) =
      ⟨item.node.withPlace none, item.span⟩ :: withoutPlaces rest := by
  obtain ⟨node, span⟩ := item
  cases node with
  | macroDefinition => exact absurd rfl hleaf
  | _ => simp only [withoutPlaces]

theorem resolveNodes_leaf (resolve : String → Option String) :
    resolveNodes resolve (item :: rest) =
      item.placed resolve :: resolveNodes resolve rest := by
  obtain ⟨node, span⟩ := item
  cases node with
  | macroDefinition => exact absurd rfl hleaf
  | libraryBinding binding =>
      obtain ⟨library, target, resolved⟩ := binding
      cases target <;> simp only [resolveNodes] <;> rfl
  | _ =>
      simp only [resolveNodes]
      rfl

end Leaf

/-- Nothing but the places is filled in. -/
theorem withoutPlaces_resolveNodes (resolve : String → Option String)
    (tree : List (Spanned Node)) :
    withoutPlaces (resolveNodes resolve tree) = withoutPlaces tree := by
  induction tree using treeInduction with
  | nil => simp only [resolveNodes]
  | definition heading contents terminated span rest hcontents hrest =>
      simp only [resolveNodes, withoutPlaces, hcontents, hrest]
  | leaf item rest hleaf ih =>
      have hplaced : (item.placed resolve).kind ≠ .macroDefinition := by
        rwa [Spanned.kind, Spanned.placed, Node.kind_withPlace]
      rw [resolveNodes_leaf hleaf, withoutPlaces_leaf hplaced, withoutPlaces_leaf hleaf, ih,
        Spanned.placed, Node.withPlace_withPlace]

theorem documentOrder_resolveNodes (resolve : String → Option String)
    (tree : List (Spanned Node)) :
    documentOrder (resolveNodes resolve tree) =
      (documentOrder tree).map (Spanned.placed resolve) := by
  induction tree using treeInduction with
  | nil => simp only [resolveNodes, documentOrder, List.map_nil]
  | definition heading contents terminated span rest hcontents hrest =>
      simp only [resolveNodes, documentOrder, hcontents, hrest, List.map_append]
  | leaf item rest hleaf ih =>
      have hplaced : (item.placed resolve).kind ≠ .macroDefinition := by
        rwa [Spanned.kind, Spanned.placed, Node.kind_withPlace]
      rw [resolveNodes_leaf hleaf, documentOrder_leaf hplaced, documentOrder_leaf hleaf, ih,
        List.map_cons]

/-- Every list of the tree is filled in, however deep it lies. -/
theorem placedBy_resolveNodes (resolve : String → Option String) (tree : List (Spanned Node)) :
    ∀ level, IsLevel (resolveNodes resolve tree) level →
      ∀ item ∈ level, item.node.PlacedBy resolve := by
  intro level hlevel item hitem
  by_cases hkind : item.kind = .macroDefinition
  · exact Node.placedBy_of_macroDefinition hkind
  · have hobject : item ∈ documentOrder (resolveNodes resolve tree) :=
      mem_documentOrder_iff.mpr ⟨hkind, level, hlevel, hitem⟩
    rw [documentOrder_resolveNodes] at hobject
    obtain ⟨parsed, -, rfl⟩ := List.mem_map.mp hobject
    exact parsed.node.placedBy_withPlace resolve

theorem withoutPlaces_eq_self {tree : List (Spanned Node)}
    (h : ∀ item ∈ documentOrder tree, item.node.place? = none) : withoutPlaces tree = tree := by
  induction tree using treeInduction with
  | nil => simp only [withoutPlaces]
  | definition heading contents terminated span rest hcontents hrest =>
      simp only [documentOrder, List.forall_mem_append] at h
      simp only [withoutPlaces, hcontents h.1, hrest h.2]
  | leaf item rest hleaf ih =>
      rw [documentOrder_leaf hleaf, List.forall_mem_cons] at h
      obtain ⟨node, span⟩ := item
      have hself : node.withPlace none = node := by
        rw [← h.1]
        exact node.withPlace_place?
      rw [withoutPlaces_leaf hleaf, ih h.2, hself]

/-! ## Programs -/

theorem IsRead.place?_eq_none {start stop : Cursor} {node : Node}
    (h : IsRead start stop node) : node.place? = none := by
  cases h with
  | inclusion hread =>
      obtain ⟨keyword, -, hread⟩ := Option.bind_eq_some_iff.mp hread
      obtain ⟨space, -, hread⟩ := Option.bind_eq_some_iff.mp hread
      obtain ⟨path, -, hread⟩ := Option.bind_eq_some_iff.mp hread
      obtain ⟨last, -, hread⟩ := Option.bind_eq_some_iff.mp hread
      obtain ⟨rfl, -⟩ := Prod.mk.inj (Option.some.inj hread)
      rfl
  | libraryBinding hread =>
      obtain ⟨keyword, -, hread⟩ := Option.bind_eq_some_iff.mp hread
      obtain ⟨space, -, hread⟩ := Option.bind_eq_some_iff.mp hread
      obtain ⟨library, -, hread⟩ := Option.bind_eq_some_iff.mp hread
      obtain ⟨behind, -, hread⟩ := Option.bind_eq_some_iff.mp hread
      obtain ⟨target, -, hread⟩ := Option.bind_eq_some_iff.mp hread
      obtain ⟨rfl, -⟩ := Prod.mk.inj (Option.some.inj hread)
      rfl
  | _ => rfl

namespace Program

/-- A parsed text knows of no file system, so none of its paths has a place. -/
theorem withoutPlaces_parse (grammar : Grammar) (text : String) (name : Option String) :
    withoutPlaces (parse grammar text name).contents = (parse grammar text name).contents := by
  apply withoutPlaces_eq_self
  intro item hitem
  rw [← objects_eq_documentOrder] at hitem
  obtain ⟨start, stop, -, -, hread, -⟩ :=
    Grammar.scan_node_isRead (mem_scan_of_mem_objects hitem)
  exact hread.place?_eq_none

variable {system : FileSystem} {grammar : Grammar} {path : String}

theorem load_of_error {cause : FileError} (hread : system.read path = .error cause) :
    load system grammar path = .error (.unreadable path cause) := by
  simp only [load, hread]

theorem load_of_invalid {bytes : ByteArray} (hread : system.read path = .ok bytes)
    (hbytes : ¬ bytes.IsValidUTF8) : load system grammar path = .error (.invalidUtf8 path) := by
  simp only [load, hread, String.fromUTF8?, dif_neg hbytes]

theorem load_of_text {text : String} (hread : system.read path = .ok text.toUTF8) :
    load system grammar path =
      .ok { parse grammar text (SourcePath.fileStem? path) with
        path := some path
        lastEdit := system.lastEdit path
        contents := resolveNodes (resolveFrom system path)
          (parse grammar text (SourcePath.fileStem? path)).contents } := by
  have hdecoded : String.fromUTF8? text.toUTF8 = some text := by
    rw [String.fromUTF8?, String.toUTF8_eq_toByteArray, dif_pos text.isValidUTF8]
    rfl
  simp only [load, hread, hdecoded]

theorem read_cases (system : FileSystem) (path : String) :
    (∃ cause, system.read path = .error cause) ∨
      (∃ bytes, system.read path = .ok bytes ∧ ¬ bytes.IsValidUTF8) ∨
      ∃ text : String, system.read path = .ok text.toUTF8 := by
  cases hread : system.read path with
  | error cause => exact Or.inl ⟨cause, rfl⟩
  | ok bytes =>
      by_cases hbytes : bytes.IsValidUTF8
      · exact Or.inr (Or.inr ⟨String.fromUTF8 bytes hbytes, rfl⟩)
      · exact Or.inr (Or.inl ⟨bytes, rfl, hbytes⟩)

/-- Loading fails exactly when the file cannot be read or is no UTF-8.  The program of a
text that is loaded is the parsed program with places: everything else is the same, and
at every depth the places are what the file system says of the paths, seen from the
directory of the file. -/
theorem load_places_paths (system : FileSystem) (grammar : Grammar) (path : String) :
    (∀ cause, load system grammar path = .error (.unreadable path cause) ↔
        system.read path = .error cause) ∧
      (load system grammar path = .error (.invalidUtf8 path) ↔
        ∃ bytes, system.read path = .ok bytes ∧ ¬ bytes.IsValidUTF8) ∧
      ((∃ program, load system grammar path = .ok program) ↔
        ∃ text : String, system.read path = .ok text.toUTF8) ∧
      ∀ (text : String) (name : Option String), system.read path = .ok text.toUTF8 →
        ∃ program, load system grammar path = .ok program ∧
          program.counts = (parse grammar text name).counts ∧
          program.lines = (parse grammar text name).lines ∧
          withoutPlaces program.contents = (parse grammar text name).contents ∧
          ∀ level, IsLevel program.contents level → ∀ item ∈ level,
            item.node.PlacedBy fun location => system.canonicalPath
              (SourcePath.join ((SourcePath.parent? path).getD ".") location) := by
  rcases read_cases system path with ⟨cause, hread⟩ | ⟨bytes, hread, hbytes⟩ | ⟨text, hread⟩
  · have hload : load system grammar path = .error (.unreadable path cause) :=
      load_of_error hread
    simp [hload, hread]
  · have hload : load system grammar path = .error (.invalidUtf8 path) :=
      load_of_invalid hread hbytes
    have hnone (text : String) : bytes ≠ text.toByteArray := by
      rintro rfl
      exact hbytes text.isValidUTF8
    simp [hload, hread, hbytes, hnone]
  · have hload : load system grammar path = _ := load_of_text hread
    have hvalid : text.toByteArray.IsValidUTF8 := text.isValidUTF8
    refine ⟨by simp [hload, hread], by simp [hload, hread, hvalid], by simp [hload, hread], ?_⟩
    intro decoded name hdecoded
    obtain rfl : text = decoded := by
      have hbytes : text.toUTF8 = decoded.toUTF8 := Except.ok.inj (hread.symm.trans hdecoded)
      exact String.toByteArray_inj.mp hbytes
    refine ⟨_, hload, rfl, rfl, ?_, ?_⟩
    · rw [withoutPlaces_resolveNodes]
      exact withoutPlaces_parse grammar text _
    · exact placedBy_resolveNodes _ _

/-- A file with an inclusion that leads somewhere and, inside of an open macro definition,
two libraries. -/
def includingFile : String :=
  "%include \"setup.sas\";\n%macro m;\nlibname raw \"none\";\nlibname mart (raw);\n"

def includingSystem : FileSystem :=
  (FileTree.ofFiles "/srv" [("jobs/main.sas", includingFile.toUTF8),
    ("jobs/setup.sas", "".toUTF8)]).toFileSystem

theorem load_places_paths_of_inclusion :
    includingSystem.read "jobs/main.sas" = .ok includingFile.toUTF8 ∧
      includingSystem.canonicalPath "jobs/setup.sas" = some "/srv/jobs/setup.sas" ∧
      includingSystem.canonicalPath "jobs/none" = none ∧
      ∃ program, load includingSystem .full "jobs/main.sas" = .ok program ∧
        withoutPlaces program.contents = (parse .full includingFile none).contents ∧
        ∀ level, IsLevel program.contents level → ∀ item ∈ level,
          item.node.PlacedBy fun location =>
            includingSystem.canonicalPath (SourcePath.join "jobs" location) := by
  have hread : includingSystem.read "jobs/main.sas" = .ok includingFile.toUTF8 := by
    decide +kernel
  have hparent : (SourcePath.parent? "jobs/main.sas").getD "." = "jobs" := by
    decide +kernel
  obtain ⟨-, -, -, hloaded⟩ := load_places_paths includingSystem .full "jobs/main.sas"
  obtain ⟨program, hload, -, -, hcontents, hplaces⟩ := hloaded includingFile none hread
  rw [hparent] at hplaces
  exact ⟨hread, by decide +kernel, by decide +kernel, program, hload, hcontents, hplaces⟩

end Program

end SasOutline
