import SasOutline.Command
import SasOutline.Proofs.JsonFields
import SasOutline.Proofs.LineageAccumulation
import SasOutline.Proofs.LoadedPrograms

/-!
# Commands on files

A command loads its files one after the other and stops at the first that does not load.
So it fails with the error of that file, whatever stands behind it, and it answers when
all files load.

Three of the commands list what they find file by file: no file changes what is listed for
another one.  The lineage command adds all files to one graph, which is that of their
contents in one list.
-/

namespace SasOutline

section Traversal

variable {α β ε : Type} (f : α → Except ε β)

theorem mapM_eq_ok_iff (xs : List α) (ys : List β) :
    xs.mapM f = .ok ys ↔ List.Forall₂ (fun x y => f x = .ok y) xs ys := by
  induction xs generalizing ys with
  | nil => cases ys <;> simp [pure, Except.pure]
  | cons x xs ih =>
      rw [List.mapM_cons, List.forall₂_cons_left_iff]
      cases hx : f x with
      | error error => simp [bind, Except.bind]
      | ok y =>
          cases hxs : xs.mapM f with
          | error error => simp [bind, Except.bind, ← ih, hxs]
          | ok rest => simp [bind, Except.bind, pure, Except.pure, ← ih, hxs, eq_comm]

/-- The first failure decides, and nothing behind it is looked at. -/
theorem mapM_eq_error_iff (xs : List α) (error : ε) :
    xs.mapM f = .error error ↔
      ∃ earlier x later, xs = earlier ++ x :: later ∧ (∀ y ∈ earlier, ∃ z, f y = .ok z) ∧
        f x = .error error := by
  induction xs with
  | nil => simp [pure, Except.pure]
  | cons x xs ih =>
      rw [List.mapM_cons]
      constructor
      · intro h
        cases hx : f x with
        | error cause =>
            obtain rfl : cause = error := by simpa [hx, bind, Except.bind] using h
            exact ⟨[], x, xs, rfl, by simp, hx⟩
        | ok y =>
            have hxs : xs.mapM f = .error error := by
              cases hxs : xs.mapM f <;> simp_all [bind, Except.bind, pure, Except.pure]
            obtain ⟨earlier, first, later, rfl, hearlier, hfirst⟩ := ih.mp hxs
            refine ⟨x :: earlier, first, later, rfl, ?_, hfirst⟩
            rw [List.forall_mem_cons]
            exact ⟨⟨y, hx⟩, hearlier⟩
      · rintro ⟨_ | ⟨y, earlier⟩, first, later, hsplit, hearlier, hfirst⟩
        · obtain ⟨rfl, rfl⟩ := List.cons.inj hsplit
          rw [hfirst]
          rfl
        · obtain ⟨rfl, hrest⟩ := List.cons.inj hsplit
          rw [List.forall_mem_cons] at hearlier
          obtain ⟨⟨z, hz⟩, hearlier⟩ := hearlier
          rw [hz, ih.mpr ⟨earlier, first, later, hrest, hearlier, hfirst⟩]
          rfl

theorem exists_forall₂_iff {R : α → β → Prop} (xs : List α) :
    (∃ ys, List.Forall₂ R xs ys) ↔ ∀ x ∈ xs, ∃ y, R x y := by
  induction xs with
  | nil => simp
  | cons x xs ih =>
      rw [List.forall_mem_cons, ← ih]
      simp only [List.forall₂_cons_left_iff]
      constructor
      · rintro ⟨_, y, ys, hy, hys, rfl⟩
        exact ⟨⟨y, hy⟩, ys, hys⟩
      · rintro ⟨⟨y, hy⟩, ys, hys⟩
        exact ⟨y :: ys, y, ys, hy, hys, rfl⟩

end Traversal

namespace CommandInput

/-! ## Loading the files -/

section Loading

variable (input : CommandInput) (system : FileSystem)

/-- Every file loads, and these are the programs in the order of the files. -/
def Loads (programs : List Program) : Prop :=
  List.Forall₂ (fun path program => Program.load system input.grammar path = .ok program)
    input.files programs

/-- The cause is that of the first file that does not load. -/
def FailsWith (cause : ProgramError) : Prop :=
  ∃ earlier path later, input.files = earlier ++ path :: later ∧
    (∀ other ∈ earlier, ∃ program, Program.load system input.grammar other = .ok program) ∧
      Program.load system input.grammar path = .error cause

/-- The command answers when every file loads, and fails with the cause of the first that
does not. -/
structure AnswersFiles {α : Type} (outcome : Except CommandError α)
    (answer : List Program → α) : Prop where
  succeeds_iff : (∃ value, outcome = .ok value) ↔
    ∀ path ∈ input.files, ∃ program, Program.load system input.grammar path = .ok program
  answers : ∀ programs, input.Loads system programs → outcome = .ok (answer programs)
  fails_iff : ∀ error, outcome = .error error ↔
    ∃ cause, error = .program cause ∧ input.FailsWith system cause

theorem loadFile_eq_ok_iff {path : String} {program : Program} :
    input.loadFile system path = .ok program ↔
      Program.load system input.grammar path = .ok program := by
  rw [loadFile]
  cases Program.load system input.grammar path <;> simp [Except.mapError]

theorem loadFile_eq_error_iff {path : String} {error : CommandError} :
    input.loadFile system path = .error error ↔
      ∃ cause, error = .program cause ∧
        Program.load system input.grammar path = .error cause := by
  rw [loadFile]
  cases Program.load system input.grammar path <;> simp [Except.mapError, eq_comm]

variable {input} (hfiles : input.files ≠ [])

include hfiles

theorem programs_of_files : input.programs system = input.files.mapM (input.loadFile system) := by
  rw [programs, if_neg (by simpa using hfiles)]

theorem programs_eq_ok_iff {programs : List Program} :
    input.programs system = .ok programs ↔ input.Loads system programs := by
  simp only [programs_of_files system hfiles, mapM_eq_ok_iff, loadFile_eq_ok_iff, Loads]

theorem programs_eq_error_iff {error : CommandError} :
    input.programs system = .error error ↔
      ∃ cause, error = .program cause ∧ input.FailsWith system cause := by
  simp only [programs_of_files system hfiles, mapM_eq_error_iff, loadFile_eq_ok_iff,
    loadFile_eq_error_iff, FailsWith]
  constructor
  · rintro ⟨earlier, path, later, hsplit, hearlier, cause, herror, hload⟩
    exact ⟨cause, herror, earlier, path, later, hsplit, hearlier, hload⟩
  · rintro ⟨cause, herror, earlier, path, later, hsplit, hearlier, hload⟩
    exact ⟨earlier, path, later, hsplit, hearlier, cause, herror, hload⟩

theorem answersFiles_map {α : Type} (answer : List Program → α) :
    input.AnswersFiles system (answer <$> input.programs system) answer := by
  constructor
  · simp only [← exists_forall₂_iff, ← Loads.eq_def, ← programs_eq_ok_iff system hfiles]
    cases input.programs system <;> simp
  · intro programs hloads
    rw [(programs_eq_ok_iff system hfiles).mpr hloads]
    rfl
  · intro error
    rw [← programs_eq_error_iff system hfiles]
    cases input.programs system <;> simp

end Loading

/-! ## The three listings -/

/-- A command that prints one array, and the kind it asks for. -/
inductive Listing where
  | summary
  | tree
  | objects (kindName : Option String)

namespace Listing

def outcome (input : CommandInput) (system : FileSystem) :
    Listing → Except CommandError String
  | summary => input.summary system
  | tree => input.tree system
  | objects kindName => input.objects system kindName

/-- What the array holds for one program. -/
def entries : Listing → Program → List Json
  | summary, program => [program.infoJson]
  | tree, program => [program.treeJson]
  | objects none, program => program.objects.map Spanned.toJson
  | objects (some name), program =>
      (program.objects.map Spanned.toJson).filter (Json.isOfKind name)

def array (listing : Listing) (programs : List Program) : Json :=
  .array (programs.flatMap listing.entries)

/-- The kind that is asked for exists. -/
def AsksForKnownKind : Listing → Prop
  | objects (some name) => ∃ kind : NodeKind, equalIgnoringCase kind.name name = true
  | _ => True

end Listing

theorem Listing.array_summary (programs : List Program) :
    summary.array programs = .ofList Program.infoJson programs :=
  congrArg Json.array (List.flatMap_pure_eq_map Program.infoJson programs)

theorem Listing.array_tree (programs : List Program) :
    tree.array programs = .ofList Program.treeJson programs :=
  congrArg Json.array (List.flatMap_pure_eq_map Program.treeJson programs)

/-- The objects of the kind are those whose records name it. -/
theorem Listing.entries_objects {kindName : Option String} {kind : Option NodeKind}
    (hkind : kindFilter kindName = .ok kind) (program : Program) :
    (objects kindName).entries program = (selected kind program).map Spanned.toJson := by
  cases kindName with
  | none =>
      obtain rfl : none = kind := Except.ok.inj hkind
      rfl
  | some name =>
      rw [kindFilter] at hkind
      split at hkind
      · next found hfound =>
        obtain rfl : some found = kind := Except.ok.inj hkind
        have hsame (item : Spanned Node) :
            Json.isOfKind name item.toJson = (item.kind == found) := by
          rw [item.isOfKind_toJson, Bool.eq_iff_iff, beq_iff_eq, ← NodeKind.ofName?_eq_some_iff,
            hfound, Option.some_inj, eq_comm]
        simp only [entries, List.filter_map, Function.comp_def, hsame]
        rfl
      · cases hkind

theorem Listing.array_objects {kindName : Option String} {kind : Option NodeKind}
    (hkind : kindFilter kindName = .ok kind) (programs : List Program) :
    (objects kindName).array programs = nodesJson (programs.flatMap (selected kind)) := by
  have hentries : (objects kindName).entries =
      fun program => (selected kind program).map Spanned.toJson :=
    funext (entries_objects hkind)
  rw [array, hentries, nodesJson_eq_ofList, Json.ofList, List.map_flatMap]

theorem outcome_listing {listing : Listing} (hknown : listing.AsksForKnownKind)
    (input : CommandInput) (system : FileSystem) :
    listing.outcome input system =
      (fun programs => (listing.array programs).print input.pretty) <$> input.programs system := by
  rw [map_eq_pure_bind]
  cases listing with
  | summary =>
      simp only [Listing.array_summary]
      rfl
  | tree =>
      simp only [Listing.array_tree]
      rfl
  | objects kindName =>
      obtain ⟨kind, hkind⟩ : ∃ kind, kindFilter kindName = .ok kind := by
        cases kindName with
        | none => exact ⟨none, rfl⟩
        | some name =>
            obtain ⟨kind, hkind⟩ := hknown
            exact ⟨some kind, by rw [kindFilter, NodeKind.ofName?_eq_some_iff.mpr hkind]⟩
      simp only [Listing.array_objects hkind]
      rw [Listing.outcome, objects, hkind]
      rfl

/-- The kind is looked up before any file is read. -/
theorem objects_of_unknownKind {name : String}
    (hunknown : ¬ (Listing.objects (some name)).AsksForKnownKind)
    (input : CommandInput) (system : FileSystem) :
    input.objects system (some name) = .error (.unknownKind name) := by
  have hnone : NodeKind.ofName? name = none := by
    rw [NodeKind.ofName?, List.find?_eq_none]
    exact fun kind _ hkind => hunknown ⟨kind, hkind⟩
  rw [objects, kindFilter, hnone]
  rfl

theorem Listing.asksForKnownKind_of_ok {listing : Listing} {input : CommandInput}
    {system : FileSystem} {text : String} (houtcome : listing.outcome input system = .ok text) :
    listing.AsksForKnownKind := by
  cases listing with
  | summary => trivial
  | tree => trivial
  | objects kindName =>
      cases kindName with
      | none => trivial
      | some name =>
          by_contra hunknown
          rw [outcome, objects_of_unknownKind hunknown] at houtcome
          cases houtcome

/-! ## The lineage of all files -/

theorem combinedLineage_eq_ofNodes (programs : List Program) :
    combinedLineage programs = .ofNodes (programs.flatMap Program.contents) := by
  induction programs using List.reverseRecOn with
  | nil =>
      rw [List.flatMap_nil, LineageGraph.ofNodes, LineageGraph.addNodes_eq]
      simp only [documentStatements]
      rfl
  | append_singleton programs program ih =>
      rw [combinedLineage] at ih ⊢
      rw [List.foldl_append, ih, List.foldl_cons, List.foldl_nil, LineageGraph.ofNodes,
        LineageGraph.addNodes_append, List.flatMap_append, List.flatMap_singleton]
      rfl

/-- The lineage of one list of nodes, printed, and the statements left out of it. -/
def lineageReport (pretty : Bool) (nodes : List (Spanned Node)) : LineageReport :=
  let graph := LineageGraph.ofNodes nodes
  ⟨graph.toJson.print pretty, graph.defects⟩

theorem outcome_lineage (input : CommandInput) (system : FileSystem) :
    input.lineage system =
      (fun programs => lineageReport input.pretty (programs.flatMap Program.contents)) <$>
        input.programs system := by
  rw [map_eq_pure_bind]
  simp only [lineageReport, ← combinedLineage_eq_ofNodes]
  rfl

/-! ## All four commands -/

section Split

variable {input : CommandInput} {system : FileSystem} {first second : List String}
  (hsplit : input.files = first ++ second)

include hsplit

theorem Loads.split {programs : List Program} (hloads : input.Loads system programs) :
    ∃ firstPrograms secondPrograms, programs = firstPrograms ++ secondPrograms ∧
      { input with files := first }.Loads system firstPrograms ∧
        { input with files := second }.Loads system secondPrograms := by
  rw [Loads, hsplit] at hloads
  refine ⟨programs.take first.length, programs.drop first.length, ?_, ?_, ?_⟩
  · exact (List.take_append_drop _ _).symm
  · have htake := List.forall₂_take first.length hloads
    rwa [List.take_left] at htake
  · have hdrop := List.forall₂_drop first.length hloads
    rwa [List.drop_left] at hdrop

/-- Files that are listed together are listed as each part of them on its own. -/
theorem outcome_split (hfirst : first ≠ []) (hsecond : second ≠ []) {listing : Listing}
    {text : String} (houtcome : listing.outcome input system = .ok text) :
    ∃ firstEntries secondEntries,
      listing.outcome { input with files := first } system =
          .ok ((Json.array firstEntries).print input.pretty) ∧
        listing.outcome { input with files := second } system =
          .ok ((Json.array secondEntries).print input.pretty) ∧
        text = (Json.array (firstEntries ++ secondEntries)).print input.pretty := by
  have hfiles : input.files ≠ [] := by
    rw [hsplit]
    exact List.append_ne_nil_of_left_ne_nil hfirst second
  have hknown : listing.AsksForKnownKind := Listing.asksForKnownKind_of_ok houtcome
  rw [outcome_listing hknown] at houtcome
  obtain ⟨programs, hprograms, rfl⟩ : ∃ programs, input.programs system = .ok programs ∧
      (listing.array programs).print input.pretty = text := by
    cases hprograms : input.programs system with
    | error error =>
        rw [hprograms] at houtcome
        cases houtcome
    | ok programs =>
        rw [hprograms] at houtcome
        exact ⟨programs, rfl, Except.ok.inj houtcome⟩
  obtain ⟨firstPrograms, secondPrograms, rfl, hloadsFirst, hloadsSecond⟩ :=
    ((programs_eq_ok_iff system hfiles).mp hprograms).split hsplit
  refine ⟨firstPrograms.flatMap listing.entries, secondPrograms.flatMap listing.entries,
    ?_, ?_, ?_⟩
  · rw [outcome_listing hknown, (programs_eq_ok_iff system hfirst).mpr hloadsFirst]
    rfl
  · rw [outcome_listing hknown, (programs_eq_ok_iff system hsecond).mpr hloadsSecond]
    rfl
  · rw [Listing.array, List.flatMap_append]

end Split

/-- Each command answers when all files load and fails with the error of the first that
does not; an unknown kind is refused whatever the files are.  What is listed for some files
and then others is what is listed for each, a kind picks from the records of all objects,
and the lineage is that of all contents in one list. -/
theorem commands_on_files {input : CommandInput} (hfiles : input.files ≠ [])
    (system : FileSystem) :
    (∀ listing : Listing, listing.AsksForKnownKind →
        input.AnswersFiles system (listing.outcome input system)
          fun programs => (listing.array programs).print input.pretty) ∧
      (∀ name, ¬ (Listing.objects (some name)).AsksForKnownKind →
        ∀ anySystem, input.objects anySystem (some name) = .error (.unknownKind name)) ∧
      (∀ (listing : Listing) (first second : List String) (text : String),
        input.files = first ++ second → first ≠ [] → second ≠ [] →
        listing.outcome input system = .ok text →
        ∃ firstEntries secondEntries,
          listing.outcome { input with files := first } system =
              .ok ((Json.array firstEntries).print input.pretty) ∧
            listing.outcome { input with files := second } system =
              .ok ((Json.array secondEntries).print input.pretty) ∧
            text = (Json.array (firstEntries ++ secondEntries)).print input.pretty) ∧
      (∀ (name : String) (programs : List Program),
        programs.flatMap (Listing.objects (some name)).entries =
          (programs.flatMap (Listing.objects none).entries).filter (Json.isOfKind name)) ∧
      input.AnswersFiles system (input.lineage system)
        fun programs => lineageReport input.pretty (programs.flatMap Program.contents) := by
  refine ⟨?_, ?_, ?_, ?_, ?_⟩
  · intro listing hknown
    rw [outcome_listing hknown]
    exact answersFiles_map system hfiles _
  · intro name hunknown
    exact objects_of_unknownKind hunknown input
  · intro listing first second text hsplit hfirst hsecond houtcome
    exact outcome_split hsplit hfirst hsecond houtcome
  · intro name programs
    rw [List.filter_flatMap]
    rfl
  · rw [outcome_lineage]
    exact answersFiles_map system hfiles _

/-- Two programs and a file that is no text. -/
def mixedSystem : FileSystem :=
  (FileTree.ofFiles "/srv" [("first.sas", "%let a = 1;\n".toUTF8),
    ("second.sas", "data b; set a; run;\n".toUTF8),
    ("image.sas", ⟨#[0xff, 0xd8]⟩)]).toFileSystem

def onFiles (files : List String) : CommandInput := ⟨files, none, false, true⟩

theorem commands_on_files_of_mixed :
    (∃ firstEntries secondEntries,
        (onFiles ["first.sas"]).objects mixedSystem (some "DATASTEP") =
            .ok ((Json.array firstEntries).print true) ∧
          (onFiles ["second.sas"]).objects mixedSystem (some "DATASTEP") =
            .ok ((Json.array secondEntries).print true) ∧
          (onFiles ["first.sas", "second.sas"]).objects mixedSystem (some "DATASTEP") =
            .ok ((Json.array (firstEntries ++ secondEntries)).print true)) ∧
      (onFiles ["first.sas", "image.sas", "none.sas"]).lineage mixedSystem =
        .error (.program (.invalidUtf8 "image.sas")) ∧
      (onFiles ["first.sas", "image.sas", "none.sas"]).objects mixedSystem (some "view") =
        .error (.unknownKind "view") := by
  have hreadFirst : mixedSystem.read "first.sas" = .ok "%let a = 1;\n".toUTF8 := by
    decide +kernel
  have hreadSecond : mixedSystem.read "second.sas" = .ok "data b; set a; run;\n".toUTF8 := by
    decide +kernel
  have hreadImage : mixedSystem.read "image.sas" = .ok ⟨#[0xff, 0xd8]⟩ := by
    decide +kernel
  have hfirst : ∃ program, Program.load mixedSystem .full "first.sas" = .ok program :=
    ⟨_, Program.load_of_text hreadFirst⟩
  have hsecond : ∃ program, Program.load mixedSystem .full "second.sas" = .ok program :=
    ⟨_, Program.load_of_text hreadSecond⟩
  have himage : Program.load mixedSystem .full "image.sas" = .error (.invalidUtf8 "image.sas") :=
    Program.load_of_invalid hreadImage (by decide +kernel)
  have hboth : (onFiles ["first.sas", "second.sas"]).files ≠ [] := by decide
  have hthree : (onFiles ["first.sas", "image.sas", "none.sas"]).files ≠ [] := by decide
  obtain ⟨hlist, -, hsplit, -, -⟩ := commands_on_files hboth mixedSystem
  obtain ⟨-, hunknown, -, -, hlineage⟩ := commands_on_files hthree mixedSystem
  have hknown : (Listing.objects (some "DATASTEP")).AsksForKnownKind :=
    ⟨.dataStep, by decide +kernel⟩
  have hnone : ¬ (Listing.objects (some "view")).AsksForKnownKind := by
    rintro ⟨kind, hkind⟩
    revert hkind
    cases kind <;> decide +kernel
  refine ⟨?_, ?_, hunknown "view" hnone mixedSystem⟩
  · have hloads : ∀ path ∈ ["first.sas", "second.sas"],
        ∃ program, Program.load mixedSystem .full path = .ok program := by
      intro path hpath
      rcases List.mem_pair.mp hpath with rfl | rfl
      · exact hfirst
      · exact hsecond
    obtain ⟨text, htext⟩ := (hlist _ hknown).succeeds_iff.mpr hloads
    obtain ⟨firstEntries, secondEntries, hone, htwo, rfl⟩ :=
      hsplit _ ["first.sas"] ["second.sas"] text rfl (by decide) (by decide) htext
    exact ⟨firstEntries, secondEntries, hone, htwo, htext⟩
  · apply (hlineage.fails_iff _).mpr
    refine ⟨_, rfl, ["first.sas"], "image.sas", ["none.sas"], rfl, ?_, himage⟩
    intro other hother
    obtain rfl := List.mem_singleton.mp hother
    exact hfirst

end CommandInput

end SasOutline
