import Deobfuscator.Proofs.PlainTemplates
import Deobfuscator.Proofs.TextCuts

/-! A version is part of one component of a path, whatever it holds. The components
around it come from the directory and the template alone, so no version leads
elsewhere, and no two versions lead to the same place. -/

namespace Deobfuscator.Proofs.PathConfinement
open SlashPath TextCuts PlainTemplates
open Text (pieces joined)
open Template (Memory)

theorem partsOf_slash (front back : List Char) : partsOf (front ++ '/' :: back) = partsOf front ++ partsOf back := by
  simp only [partsOf, pieces_eq_splitOn, List.splitOn_append_cons_self, List.filter_append, List.map_append]

theorem partsOf_nil : partsOf [] = [] := rfl

theorem partsOf_single {text : List Char} (free : '/' ∉ text) (kept : isPart text = true) :
    partsOf text = [String.ofList text] := by
  simp [partsOf, pieces_eq_singleton free, kept]

theorem mem_partsOf {text : List Char} {part : String} (member : part ∈ partsOf text) :
    part.toList ≠ [] ∧ '/' ∉ part.toList := by
  obtain ⟨piece, kept, rfl⟩ := List.mem_map.mp member
  obtain ⟨cut, kept⟩ := List.mem_filter.mp kept
  rw [String.toList_ofList]
  refine ⟨?_, not_mem_of_mem_pieces cut⟩
  rintro rfl
  cases kept

def throughLastSlash (text : String) : List Char := text.toList.rdropWhile (· != '/')

def afterLastSlash (text : String) : List Char := text.toList.rtakeWhile (· != '/')

def beforeFirstSlash (text : String) : List Char := text.toList.takeWhile (· != '/')

def fromFirstSlash (text : String) : List Char := text.toList.dropWhile (· != '/')

theorem through_after (text : String) : throughLastSlash text ++ afterLastSlash text = text.toList :=
  List.rdropWhile_append_rtakeWhile

theorem before_from (text : String) : beforeFirstSlash text ++ fromFirstSlash text = text.toList :=
  List.takeWhile_append_dropWhile

theorem slash_not_mem_after (text : String) : '/' ∉ afterLastSlash text :=
  fun member => absurd (List.mem_rtakeWhile_imp member) (by simp)

theorem slash_not_mem_before (text : String) : '/' ∉ beforeFirstSlash text :=
  fun member => absurd (List.mem_takeWhile_imp member) (by simp)

theorem partsOf_through (text : String) (rest : List Char) :
    partsOf (throughLastSlash text ++ rest) = partsOf (throughLastSlash text) ++ partsOf rest := by
  rcases List.eq_nil_or_concat (throughLastSlash text) with none | ⟨front, c, whole⟩
  · rw [none, partsOf_nil, List.nil_append, List.nil_append]
  · -- Taking off what is no slash from the end stops at one.
    have slash : c = '/' := by
      have kept : text.toList.rdropWhile (· != '/') ≠ [] := by
        change throughLastSlash text ≠ []
        simp [whole]
      have last := List.rdropWhile_last_not (· != '/') text.toList kept
      change ¬ ((throughLastSlash text).getLast kept != '/') = true at last
      simpa [whole] using last
    rw [whole, slash, List.concat_eq_append, List.append_assoc, List.singleton_append, partsOf_slash, partsOf_slash,
      partsOf_nil, List.append_nil]

theorem partsOf_from (front : List Char) (text : String) :
    partsOf (front ++ fromFirstSlash text) = partsOf front ++ partsOf (fromFirstSlash text) := by
  obtain ⟨_, _, boundary⟩ := cut_parts (· != '/') text.toList
  change ∀ c ∈ (fromFirstSlash text).head?, _ at boundary
  cases whole : fromFirstSlash text with
  | nil => rw [partsOf_nil, List.append_nil, List.append_nil]
  | cons c rest =>
    have slash : c = '/' := by simpa using boundary c (by rw [whole]; rfl)
    have start : partsOf ('/' :: rest) = partsOf rest := partsOf_slash [] rest
    rw [slash, partsOf_slash, start]

/-- The component that a version is part of. -/
def component (front back version : String) : String :=
  String.ofList (afterLastSlash front ++ version.toList ++ beforeFirstSlash back)

/-- Where the file of a version lies. -/
def place (directory front back version : String) : SlashPath where
  root := (ofString directory).root
  parts := (ofString directory).parts ++ partsOf (throughLastSlash front) ++
    component front back version :: partsOf (fromFirstSlash back)

theorem admits_iff {version : String} :
    Archive.admits version = true ↔ version ≠ "" ∧ version ≠ "." ∧ version ≠ ".." ∧ '/' ∉ version.toList := by
  simp [Archive.admits, and_assoc]

variable {directory front back version other : String}

theorem slash_not_mem_component (admitted : Archive.admits version = true) :
    '/' ∉ (component front back version).toList := by
  simp [component, slash_not_mem_after, slash_not_mem_before, (admits_iff.mp admitted).2.2.2]

/-- What surrounds a version cannot make it a component without a meaning, or one
that leads back up. -/
theorem component_named (admitted : Archive.admits version = true) :
    component front back version ∉ ["", ".", ".."] := by
  obtain ⟨some, dot, dots, _⟩ := admits_iff.mp admitted
  intro meaningless
  -- All three are made of dots alone, so the version in one of them is another.
  have spliced : ∃ n ≤ 2, (component front back version).toList = List.replicate n '.' := by
    simp only [List.mem_cons, List.not_mem_nil, or_false] at meaningless
    rcases meaningless with same | same | same
    · exact ⟨0, by omega, by rw [same]; rfl⟩
    · exact ⟨1, by omega, by rw [same]; rfl⟩
    · exact ⟨2, by omega, by rw [same]; rfl⟩
  obtain ⟨n, small, whole⟩ := spliced
  have inside : version.toList <:+: List.replicate n '.' :=
    ⟨afterLastSlash front, beforeFirstSlash back, by rw [← whole, component, String.toList_ofList]⟩
  obtain ⟨fewer, same⟩ := List.infix_replicate_iff.mp inside
  have few : version.toList.length = 0 ∨ version.toList.length = 1 ∨ version.toList.length = 2 := by omega
  rw [← String.ofList_toList (s := version)] at some dot dots
  rw [same] at some dot dots
  rcases few with few | few | few <;> rw [few] at some dot dots
  · exact some rfl
  · exact dot rfl
  · exact dots rfl

theorem component_injective (same : component front back version = component front back other) : version = other := by
  simpa [component, String.ofList_inj, String.toList_inj] using same

theorem parts_spliced (admitted : Archive.admits version = true) :
    (ofString (front ++ version ++ back)).parts =
      partsOf (throughLastSlash front) ++ component front back version :: partsOf (fromFirstSlash back) := by
  have whole : (front ++ version ++ back).toList =
      throughLastSlash front ++ ((component front back version).toList ++ fromFirstSlash back) := by
    simp only [component, String.toList_append, String.toList_ofList, ← through_after front, ← before_from back,
      List.append_assoc]
  have kept : isPart (component front back version).toList = true := by
    have named : component front back version ∉ ["", ".", ".."] := component_named admitted
    rw [isPart, Bool.and_eq_true, Bool.not_eq_true', List.isEmpty_eq_false_iff, bne_iff_ne]
    refine ⟨fun same => named ?_, fun same => named ?_⟩
    · simp [String.toList_eq_nil_iff.mp same]
    · have dot : component front back version = "." := String.toList_inj.mp same
      simp [dot]
  rw [ofString, whole, partsOf_through, partsOf_from, partsOf_single (slash_not_mem_component admitted) kept,
    String.ofList_toList]
  rfl

/-- A path that has components, each with a name. -/
structure IsNamed (path : SlashPath) : Prop where
  some : path.parts ≠ []
  parts : ∀ part ∈ path.parts, part.toList ≠ [] ∧ '/' ∉ part.toList

theorem place_isNamed (admitted : Archive.admits version = true) : IsNamed (place directory front back version) := by
  refine ⟨by simp [place], ?_⟩
  intro part member
  simp only [place, List.mem_append, List.mem_cons, or_assoc] at member
  rcases member with inside | inside | rfl | inside
  · exact mem_partsOf inside
  · exact mem_partsOf inside
  · refine ⟨fun none => ?_, slash_not_mem_component admitted⟩
    have named : component front back version ∉ ["", ".", ".."] := component_named admitted
    rw [String.toList_eq_nil_iff.mp none] at named
    exact named List.mem_cons_self
  · exact mem_partsOf inside

theorem IsNamed.pieces_joined {path : SlashPath} (named : IsNamed path) :
    pieces '/' (joined '/' (path.parts.map String.toList)) = path.parts.map String.toList := by
  refine pieces_eq_iff.mpr ⟨by simpa using named.some, ?_, rfl⟩
  intro piece member
  obtain ⟨part, inside, rfl⟩ := List.mem_map.mp member
  exact (named.parts part inside).2

theorem IsNamed.toString_eq {path : SlashPath} (named : IsNamed path) :
    path.toString = path.root.text ++ String.ofList (joined '/' (path.parts.map String.toList)) := by
  have written : joined '/' (path.parts.map String.toList) ≠ [] := by
    rw [Ne, joined_eq_nil_iff, List.map_eq_nil_iff]
    · exact named.some
    · intro text member
      obtain ⟨part, inside, rfl⟩ := List.mem_map.mp member
      exact (named.parts part inside).1
  have some : (path.root.text ++ String.ofList (joined '/' (path.parts.map String.toList))).isEmpty = false := by
    simp [written]
  rw [SlashPath.toString, some]
  rfl

/-- Below one root the texts of paths tell them apart. -/
theorem toString_injective {path path' : SlashPath} (named : IsNamed path) (named' : IsNamed path')
    (root : path.root = path'.root) (same : path.toString = path'.toString) : path = path' := by
  rw [named.toString_eq, named'.toString_eq, root, String.append_right_inj, String.ofList_inj] at same
  have parts : path.parts.map String.toList = path'.parts.map String.toList := by
    rw [← named.pieces_joined, same, named'.pieces_joined]
  have parts' := List.map_injective_iff.mpr (fun _ _ => String.toList_inj.mp) parts
  cases path
  cases path'
  rw [SlashPath.mk.injEq]
  exact ⟨root, parts'⟩

theorem place_injective (same : place directory front back version = place directory front back other) :
    version = other := by
  simp only [place, SlashPath.mk.injEq, true_and, List.append_cancel_left_eq, List.cons.injEq, and_true] at same
  exact component_injective same

theorem root_spliced (relative : front.toList.head? ≠ some '/') (admitted : Archive.admits version = true) :
    (ofString (front ++ version ++ back)).root = .relative := by
  have start : (front ++ version ++ back).toList.head? ≠ some '/' := by
    obtain ⟨named, _, _, free⟩ := admits_iff.mp admitted
    rw [String.toList_append, String.toList_append]
    cases whole : front.toList with
    | cons c rest =>
      rw [whole] at relative
      exact relative
    | nil =>
      cases whole' : version.toList with
      | nil => exact absurd (String.toList_eq_nil_iff.mp whole') named
      | cons c rest =>
        rw [whole'] at free
        rintro ⟨⟩
        exact free List.mem_cons_self
  rw [ofString, Root.of]
  cases whole : (front ++ version ++ back).toList with
  | nil => rfl
  | cons c rest =>
    rw [whole] at start
    have other : (c == '/') = false := by simpa using start
    rw [List.takeWhile_cons, other]
    rfl

theorem pathOf_place (front_free : BraceFree front) (back_free : BraceFree back)
    (relative : front.toList.head? ≠ some '/') (memory : Memory) (admitted : Archive.admits version = true) :
    Archive.pathOf ⟨directory, plain front back⟩ memory version = .ok (place directory front back version) := by
  rw [pathOf_plain front_free back_free, if_pos admitted, join, if_pos (root_spliced relative admitted),
    parts_spliced admitted]
  simp [place]

/-- A version that the archive does not refuse to look for. -/
def Accepts (archive : Archive) (memory : Memory) (version : String) : Prop :=
  ∀ fault, archive.pathOf memory version = .error fault → fault.kind ≠ .mappingUnavailable

theorem Accepts.admitted {archive : Archive} {memory : Memory} (accepted : Accepts archive memory version) :
    Archive.admits version = true := by
  by_contra refused
  exact accepted (.invalidVersion version) (by simp [Archive.pathOf, refused]) rfl

/-- A version is accepted unless it names a directory or nothing. Its path then has
the components of the directory and of the template, and among them one with a name
that the version is part of. No other version has this path, or one with its text. -/
theorem pathOf_confined (directory front back : String) (front_free : BraceFree front) (back_free : BraceFree back)
    (relative : front.toList.head? ≠ some '/') :
    let archive : Archive := ⟨directory, plain front back⟩
    (∀ memory version, Accepts archive memory version ↔ version ∉ ["", ".", ".."] ∧ '/' ∉ version.toList) ∧
    ∀ memory version, Accepts archive memory version →
      archive.pathOf memory version = .ok (place directory front back version) ∧
      component front back version ∉ ["", ".", ".."] ∧ '/' ∉ (component front back version).toList ∧
      ∀ memory' other, Accepts archive memory' other → other ≠ version →
        ∀ path, archive.pathOf memory' other = .ok path →
          path ≠ place directory front back version ∧ path.toString ≠ (place directory front back version).toString := by
  intro archive
  have located (memory : Memory) {version : String} (admitted : Archive.admits version = true) :
      archive.pathOf memory version = .ok (place directory front back version) :=
    pathOf_place front_free back_free relative memory admitted
  refine ⟨?_, ?_⟩
  · intro memory version
    have admitted : version ∉ ["", ".", ".."] ∧ '/' ∉ version.toList ↔ Archive.admits version = true := by
      simp [admits_iff, and_assoc]
    rw [admitted]
    refine ⟨Accepts.admitted, fun admitted fault refused => ?_⟩
    rw [located memory admitted] at refused
    cases refused
  · intro memory version accepted
    have admitted := accepted.admitted
    refine ⟨located memory admitted, component_named admitted, slash_not_mem_component admitted, ?_⟩
    intro memory' other accepted' different path found
    have admitted' := accepted'.admitted
    rw [located memory' admitted'] at found
    cases found
    have apart : place directory front back other ≠ place directory front back version :=
      fun same => different (place_injective same)
    exact ⟨apart, fun same => apart (toString_injective (place_isNamed admitted') (place_isNamed admitted) rfl same)⟩

/-- Dots and slashes on both sides of a version that looks like a placeholder. -/
theorem pathOf_confined_dotted :
    let archive : Archive := ⟨"/srv//maps/.", plain "../v1/." ".//./map"⟩
    let memory : Memory := .constant "0x10"
    let version := ".\x7bversion\x7d"
    BraceFree "../v1/." ∧ BraceFree ".//./map" ∧ "../v1/.".toList.head? ≠ some '/' ∧ Accepts archive memory version ∧
      archive.pathOf memory version = .ok ⟨.absolute, ["srv", "maps", "..", "v1", "..\x7bversion\x7d.", "map"]⟩ ∧
      ¬ Accepts archive memory ".." := by
  intro archive memory version
  have front_free : BraceFree "../v1/." := by decide
  have back_free : BraceFree ".//./map" := by decide
  have relative : "../v1/.".toList.head? ≠ some '/' := by decide
  obtain ⟨accepts_iff, confined⟩ := pathOf_confined "/srv//maps/." "../v1/." ".//./map" front_free back_free relative
  have accepted : Accepts archive memory version := (accepts_iff memory version).mpr (by decide)
  refine ⟨front_free, back_free, relative, accepted, (confined memory version accepted).1.trans ?_, ?_⟩
  · decide
  · exact fun accepted' => ((accepts_iff memory "..").mp accepted').1 (by decide)

end Deobfuscator.Proofs.PathConfinement
