import Cfix.Pe.Agreement
import Cfix.Pe.CreateFixture

/-!
# `Pe.Mangling` — the name of a fixture and the name of its export (`cfix/pe.c`, `cfixpe.h`)

The compiler decorates the name of the function that `CFIX_BEGIN_FIXTURE` defines. `CfixpIsFixtureExport` recognises the
export by its prefix; `CfixsCreateFixture` copies what is behind the prefix and cuts it off at the `@`.
-/

namespace Cfix.PeFixture

open Cdiag (CString WCHAR)
open Events (Width)
open Memory
open TestModule (cfixMaxFixtureNameCch)

/-! ## Names -/

/-- The characters of an identifier: letters and `_`, and behind the first one digits. -/
def isNondigit (b : UInt8) : Bool :=
  (0x41 ≤ b.toNat && b.toNat ≤ 0x5A) || (0x61 ≤ b.toNat && b.toNat ≤ 0x7A) || b.toNat == 0x5F

def isDigit (b : UInt8) : Bool := 0x30 ≤ b.toNat && b.toNat ≤ 0x39

def IsIdentifier : List UInt8 → Prop
  | []      => False
  | b :: bs => isNondigit b = true ∧ ∀ c ∈ bs, isNondigit c || isDigit c

/-- The name of a fixture, as `CFIX_BEGIN_FIXTURE` gets it. -/
structure FixtureName where
  chars      : List UInt8
  identifier : IsIdentifier chars
  length_lt  : chars.length < cfixMaxFixtureNameCch

def widen (text : List UInt8) : List WCHAR := text.map fun b => BitVec.ofNat 16 b.toNat

/-- A code page. Each has the ASCII characters where ASCII has them. -/
structure CodePage where
  decode : List UInt8 → CString
  ascii  : ∀ text, (∀ b ∈ text, 0 < b.toNat ∧ b.toNat < 128) → (decode text).chars = widen text

/-- What a `stdcall` function without parameters has behind its name. -/
def mangledSuffix : Width → List UInt8
  | .w32 => [0x40, 0x30]
  | .w64 => []

/-- The export of a fixture with this name. -/
def exportText (w : Width) (name : FixtureName) : List UInt8 := mangledPrefix w ++ (name.chars ++ mangledSuffix w)

theorem FixtureName.pos (name : FixtureName) : 0 < name.chars.length := by
  cases hchars : name.chars with
  | nil =>
      have hidentifier := name.identifier
      rw [hchars] at hidentifier
      exact hidentifier.elim
  | cons b bs => exact Nat.succ_pos _

theorem isNondigit_ascii {b : UInt8} (h : isNondigit b = true) : 0x41 ≤ b.toNat ∧ b.toNat < 128 := by
  simp only [isNondigit, Bool.or_eq_true, Bool.and_eq_true, decide_eq_true_eq, beq_iff_eq] at h
  omega

theorem isDigit_ascii {b : UInt8} (h : isDigit b = true) : 0x30 ≤ b.toNat ∧ b.toNat < 0x40 := by
  simp only [isDigit, Bool.and_eq_true, decide_eq_true_eq] at h
  omega

/-- A character of a name is an ASCII character other than `@`. -/
theorem FixtureName.char (name : FixtureName) {b : UInt8} (hb : b ∈ name.chars) :
    0 < b.toNat ∧ b.toNat < 128 ∧ b.toNat ≠ 0x40 := by
  have hidentifier := name.identifier
  cases hchars : name.chars with
  | nil =>
      rw [hchars] at hb
      cases hb
  | cons c cs =>
      rw [hchars] at hb hidentifier
      obtain ⟨hfirst, hrest⟩ := hidentifier
      rcases List.mem_cons.mp hb with rfl | hb
      · have hascii := isNondigit_ascii hfirst
        omega
      · have hc := hrest b hb
        rcases (Bool.or_eq_true _ _).mp hc with hnondigit | hdigit
        · have hascii := isNondigit_ascii hnondigit
          omega
        · have hascii := isDigit_ascii hdigit
          omega

theorem length_mangledPrefix (w : Width) : (mangledPrefix w).length = mangledPrefixCch w := by
  cases w <;> rfl

/-- The decoration is ASCII. -/
theorem decoration_ascii (w : Width) :
    ∀ b ∈ mangledPrefix w ++ mangledSuffix w, 0 < b.toNat ∧ b.toNat < 128 := by
  have hall : (mangledPrefix w ++ mangledSuffix w).all (fun b => 0 < b.toNat && b.toNat < 128) = true := by
    cases w <;> rfl
  intro b hb
  have hascii := List.all_eq_true.mp hall b hb
  rwa [Bool.and_eq_true, decide_eq_true_iff, decide_eq_true_iff] at hascii

theorem decoration_ne_zero (w : Width) : ∀ b ∈ mangledPrefix w ++ mangledSuffix w, b ≠ 0 := by
  rintro b hb rfl
  exact Nat.lt_irrefl 0 (decoration_ascii w 0 hb).1

/-- The export has the form that `CfixsCreateFixture` relies on. -/
def exportName (w : Width) (name : FixtureName) : ExportName w where
  chars  := exportText w name
  begins := List.prefix_append _ _
  longer := by
    have hpos := name.pos
    have hmangled := length_mangledPrefix w
    rw [exportText, List.length_append, List.length_append]
    omega

/-- What is behind the prefix. -/
theorem drop_exportName (w : Width) (name : FixtureName) :
    (exportName w name).chars.drop (mangledPrefixCch w) = name.chars ++ mangledSuffix w := by
  show (mangledPrefix w ++ (name.chars ++ mangledSuffix w)).drop (mangledPrefixCch w) = _
  rw [← length_mangledPrefix, List.drop_left]

/-! ## Recognition -/

/-- The memory holds the zero-terminated text. -/
def HoldsText (m : Mem) (a : Nat) (text : List UInt8) : Prop := read m a (text.length + 1) = text ++ [0]

/-- A longer text with the prefix begins with it. -/
theorem beginsWith_of_holds {m : Mem} {a : Nat} {mangled rest : List UInt8} (h : HoldsText m a (mangled ++ rest))
    (hrest : rest ≠ []) (hnonzero : ∀ b ∈ mangled ++ rest, b ≠ 0) :
    PeImage.beginsWith m a mangled mangled.length = true := by
  obtain ⟨b, bs, rfl⟩ := List.exists_cons_of_ne_nil hrest
  have hsplit : read m a mangled.length ++ read m (a + mangled.length) ((b :: bs).length + 1) =
      mangled ++ (b :: bs ++ [0]) := by
    rw [← read_append, ← Nat.add_assoc, ← List.length_append, ← List.append_assoc]
    exact h
  obtain ⟨hmangled, hbehind⟩ := List.append_inj hsplit (length_read m a _)
  have hfirst : m (a + mangled.length) = b := (List.cons.inj hbehind).1
  have hone : read m a (mangled.length + 1) = mangled ++ [b] := by
    rw [read_append, hmangled, ← hfirst]
    rfl
  rw [PeImage.beginsWith, Bool.and_eq_true]
  constructor
  · rw [PeImage.strlenGt, hone, List.all_eq_true]
    intro c hc
    apply bne_iff_ne.mpr
    apply hnonzero
    rcases List.mem_append.mp hc with hc | hc
    · exact List.mem_append_left _ hc
    · obtain rfl := List.mem_singleton.mp hc
      exact List.mem_append_right _ List.mem_cons_self
  · rw [hmangled]
    exact beq_self_eq_true mangled

/-- **The export of a fixture is recognised.** -/
theorem isFixtureExport_exportText {w : Width} {name : FixtureName} {m : Mem} {a : Nat}
    (h : HoldsText m a (exportText w name)) : PeImage.isFixtureExport w m a = true := by
  have hrest : name.chars ++ mangledSuffix w ≠ [] := by
    intro hnil
    have hpos := name.pos
    rw [(List.append_eq_nil_iff.mp hnil).1] at hpos
    exact Nat.lt_irrefl 0 hpos
  have hname : ∀ b ∈ name.chars, b ≠ 0 := by
    rintro b hb rfl
    exact Nat.lt_irrefl 0 (name.char hb).1
  have hnonzero : ∀ b ∈ mangledPrefix w ++ (name.chars ++ mangledSuffix w), b ≠ 0 := by
    intro b hb
    rcases List.mem_append.mp hb with hb | hb
    · exact decoration_ne_zero w b (List.mem_append_left _ hb)
    · rcases List.mem_append.mp hb with hb | hb
      · exact hname b hb
      · exact decoration_ne_zero w b (List.mem_append_right _ hb)
  have hbegins := beginsWith_of_holds h hrest hnonzero
  cases w with
  | w32 => exact hbegins
  | w64 => exact hbegins

/-! ## The stored name -/

/-- What a code page makes of a name with its suffix. -/
theorem CodePage.decode_name (page : CodePage) (w : Width) (name : FixtureName) :
    (page.decode (name.chars ++ mangledSuffix w)).chars = widen name.chars ++ widen (mangledSuffix w) := by
  rw [page.ascii, widen, List.map_append]
  · rfl
  · intro b hb
    rcases List.mem_append.mp hb with hb | hb
    · exact ⟨(name.char hb).1, (name.char hb).2.1⟩
    · exact decoration_ascii w b (List.mem_append_right _ hb)

/-- The suffix is cut off. -/
theorem unmangleName_decode (page : CodePage) (w : Width) (name : FixtureName) :
    (unmangleName (page.decode (name.chars ++ mangledSuffix w))).chars = widen name.chars := by
  have hname : ∀ c ∈ widen name.chars, c ≠ 0x40#16 := by
    intro c hc heq
    obtain ⟨b, hb, rfl⟩ := List.mem_map.mp hc
    have hchar := name.char hb
    have hnat := congrArg BitVec.toNat heq
    rw [BitVec.toNat_ofNat] at hnat
    have hvalue : b.toNat % 2 ^ 16 = 0x40 := hnat
    omega
  have hall : (widen name.chars).takeWhile (· ≠ 0x40#16) = widen name.chars := by
    rw [List.takeWhile_eq_self_iff]
    exact fun c hc => decide_eq_true (hname c hc)
  have hsuffix : (widen (mangledSuffix w)).takeWhile (· ≠ 0x40#16) = [] := by cases w <;> decide
  rw [unmangleName]
  show (page.decode (name.chars ++ mangledSuffix w)).chars.takeWhile (· ≠ 0x40#16) = widen name.chars
  rw [page.decode_name, List.takeWhile_append, hall, if_pos rfl, hsuffix, List.append_nil]

/-- The fixture with another name. -/
def Fixture.rename (f : Fixture) (name : CString) : Fixture := { f with name := name }

/-- The walk does not look at the name. -/
theorem addEntry_rename (w : Width) (size : Nat) (f : Fixture) (name : CString) (e : DefinitionEntry) :
    addEntry w size (f.rename name) e = (addEntry w size f e).map fun f => f.rename name := by
  unfold addEntry
  cases entryKind e.type with
  | special s =>
      have hroutine : (f.rename name).routine s = f.routine s := by cases s <;> rfl
      have hset : (f.rename name).setRoutine e.routine s = (f.setRoutine e.routine s).rename name := by cases s <;> rfl
      simp only [hroutine, hset]
      split <;> rfl
  | testcase =>
      show (if sizeofFixture w (f.testCases.length + 1) ≤ size then _ else _) = _
      split <;> rfl
  | unknown => rfl

theorem addEntries_rename (w : Width) (size : Nat) (f : Fixture) (name : CString) (es : List DefinitionEntry) :
    addEntries w size (f.rename name) es = (addEntries w size f es).map fun f => f.rename name := by
  induction es generalizing f with
  | nil => rfl
  | cons e es ih =>
      rw [addEntries, addEntries, addEntry_rename]
      cases addEntry w size f e with
      | error stop => rfl
      | ok f => exact ih f

/-- The fixture that the walk starts with. -/
def newFixture (d : Definition) (testModule : Nat) (name : CString) : Fixture where
  name            := name
  setupRoutine    := 0
  teardownRoutine := 0
  beforeRoutine   := 0
  afterRoutine    := 0
  reserved        := 0
  apiType         := d.type.toNat
  flags           := d.flags.setWidth 32
  testModule      := testModule
  testCases       := []

/-- What is behind the prefix, as the code page reads it. -/
def nameText {w : Width} (decode : List UInt8 → CString) (x : ExportName w) : CString :=
  decode (x.chars.drop (mangledPrefixCch w))

/-- What a definition that is a fixture becomes under the name of another export. -/
def renamed {w : Width} (decode : List UInt8 → CString) (x : ExportName w) (f : Fixture) : Created :=
  if (nameText decode x).length < cfixMaxFixtureNameCch then ⟨sOk, some (f.rename (unmangleName (nameText decode x))), 1⟩
  else ⟨eFixtureNameTooLong, none, 0⟩

section Renaming

variable {w : Width} {decode : List UInt8 → CString} {testModule : Nat} {d : Definition} {f : Fixture} {x₀ x : ExportName w}

/-- What the code behind the label returns is not a fixture. -/
theorem not_cleanup {hr : HRESULT} {newFixture : Bool}
    (h : (.ok (cleanup hr newFixture) : Except Fault Created) = .ok ⟨sOk, some f, 1⟩) : False := by
  have hnone : none = some f := congrArg Created.fixture (Except.ok.inj h)
  cases hnone

theorem fillFixture_rename {size : Nat} (h : fillFixture w decode x₀ testModule d size = .ok ⟨sOk, some f, 1⟩) :
    fillFixture w decode x testModule d size = .ok (renamed decode x f) := by
  unfold fillFixture at h ⊢
  split at h
  · cases h
  · next hsize =>
      rw [if_neg hsize]
      cases hname₀ : multiByteToWideChar decode (x₀.chars.drop (mangledPrefixCch w)) cfixMaxFixtureNameCch with
      | error err =>
          simp only [hname₀] at h
          exact (not_cleanup h).elim
      | ok name₀ =>
          simp only [hname₀] at h
          by_cases hfits : (nameText decode x).length < cfixMaxFixtureNameCch
          · have hname : multiByteToWideChar decode (x.chars.drop (mangledPrefixCch w)) cfixMaxFixtureNameCch =
                .ok (nameText decode x) := if_pos hfits
            rw [renamed, if_pos hfits]
            simp only [hname]
            split at h
            · exact (not_cleanup h).elim
            · next hrevision =>
                rw [if_neg hrevision]
                split at h
                · exact (not_cleanup h).elim
                · next hflags =>
                    rw [if_neg hflags]
                    -- the two fixtures that the walk starts with differ in the name only
                    split at h
                    · exact (not_cleanup h).elim
                    · cases h
                    · next f' hadd =>
                        cases h
                        have hrenamed := addEntries_rename w size (newFixture d testModule (unmangleName name₀))
                          (unmangleName (nameText decode x)) d.entries
                        rw [show addEntries w size (newFixture d testModule (unmangleName name₀)) d.entries = .ok f
                          from hadd] at hrenamed
                        have hadd' : addEntries w size (newFixture d testModule (unmangleName (nameText decode x)))
                          d.entries = .ok (f.rename (unmangleName (nameText decode x))) := hrenamed
                        unfold newFixture at hadd'
                        simp only [hadd']
          · have hname : multiByteToWideChar decode (x.chars.drop (mangledPrefixCch w)) cfixMaxFixtureNameCch =
                .error errorInsufficientBuffer := if_neg hfits
            rw [renamed, if_neg hfits]
            simp only [hname]
            rfl

/-- **Another export name** changes the name of the fixture, unless it is too long. -/
theorem createFixture_rename {malloc : Nat → Bool} {fuel : Nat}
    (h : createFixture w decode malloc fuel x₀ testModule (some d) = some (.ok ⟨sOk, some f, 1⟩)) :
    createFixture w decode malloc fuel x testModule (some d) = some (.ok (renamed decode x f)) := by
  unfold createFixture at h ⊢
  simp only at h ⊢
  split at h
  · cases h
  · next htype =>
      rw [if_neg htype]
      cases hcount : countEntries d.entries fuel 0#32 with
      | none =>
          simp only [hcount] at h
          cases h
      | some entryCount =>
          simp only [hcount] at h ⊢
          split at h
          · exact (not_cleanup (Option.some.inj h)).elim
          · next hmalloc =>
              rw [if_neg hmalloc, fillFixture_rename (Option.some.inj h)]

end Renaming

/-! ## The round trip -/

/-- Under this export every definition that is a fixture at all becomes a fixture with this name. -/
def StoresName (page : CodePage) {w : Width} (x : ExportName w) (name : List WCHAR) : Prop :=
  ∀ (malloc : Nat → Bool) (fuel testModule : Nat) (d : Definition) (x₀ : ExportName w) (f₀ : Fixture),
    createFixture w page.decode malloc fuel x₀ testModule (some d) = some (.ok ⟨sOk, some f₀, 1⟩) →
    ∃ f, createFixture w page.decode malloc fuel x testModule (some d) = some (.ok ⟨sOk, some f, 1⟩) ∧
      f.name.chars = name

/-- The export of a fixture is recognised, and the fixture gets its name back. -/
structure RoundTrips (page : CodePage) (w : Width) (name : FixtureName) : Prop where
  recognised : ∀ m a, HoldsText m a (exportText w name) → PeImage.isFixtureExport w m a = true
  stored     : StoresName page (exportName w name) (widen name.chars)

/-- The length that the suffix adds to. -/
theorem length_nameText (page : CodePage) (w : Width) (name : FixtureName) :
    (nameText page.decode (exportName w name)).length = name.chars.length + (mangledSuffix w).length := by
  rw [nameText, drop_exportName, CString.length, page.decode_name, List.length_append, widen, widen, List.length_map,
    List.length_map]

/-- The name is stored if it fits together with its suffix. -/
theorem storesName_of_fits (page : CodePage) {w : Width} {name : FixtureName}
    (hfits : name.chars.length + (mangledSuffix w).length < cfixMaxFixtureNameCch) :
    StoresName page (exportName w name) (widen name.chars) := by
  intro malloc fuel testModule d x₀ f₀ hcreated
  refine ⟨f₀.rename (unmangleName (nameText page.decode (exportName w name))), ?_, ?_⟩
  · rw [createFixture_rename hcreated, renamed, length_nameText, if_pos hfits]
  · show (unmangleName (nameText page.decode (exportName w name))).chars = widen name.chars
    rw [nameText, drop_exportName]
    exact unmangleName_decode page w name

/-- A fixture without entries. -/
def emptyDefinition : Definition where
  type     := 1
  flags    := 0
  revision := 0
  entries  := []
  ne_end   := by simp

def shortName : FixtureName where
  chars      := [0x41]
  identifier := ⟨by decide, by simp⟩
  length_lt  := by decide

theorem createFixture_shortName (page : CodePage) (w : Width) :
    ∃ f, createFixture w page.decode (fun _ => true) 1 (exportName w shortName) 0 (some emptyDefinition) =
      some (.ok ⟨sOk, some f, 1⟩) := by
  have hlength := length_nameText page w shortName
  have hname : multiByteToWideChar page.decode ((exportName w shortName).chars.drop (mangledPrefixCch w))
      cfixMaxFixtureNameCch = .ok (nameText page.decode (exportName w shortName)) := by
    apply if_pos
    show (nameText page.decode (exportName w shortName)).length < cfixMaxFixtureNameCch
    rw [hlength]
    cases w <;> decide
  have hsize : ¬ sizeofThroughTestCase w 0#32 < testCasesOffset w := by cases w <;> decide
  refine ⟨newFixture emptyDefinition 0 (unmangleName (nameText page.decode (exportName w shortName))), ?_⟩
  have hfill : fillFixture w page.decode (exportName w shortName) 0 emptyDefinition (sizeofThroughTestCase w 0#32) =
      .ok ⟨sOk, some (newFixture emptyDefinition 0 (unmangleName (nameText page.decode (exportName w shortName)))), 1⟩ := by
    rw [fillFixture, if_neg hsize]
    simp only [hname]
    rfl
  show some (fillFixture w page.decode (exportName w shortName) 0 emptyDefinition (sizeofThroughTestCase w 0#32)) = _
  rw [hfill]

/-- **The round trip succeeds exactly if the buffer has room for the suffix, too.** -/
theorem roundTrips_iff (page : CodePage) (w : Width) (name : FixtureName) :
    RoundTrips page w name ↔ w = .w64 ∨ name.chars.length + 2 < cfixMaxFixtureNameCch := by
  constructor
  · rintro ⟨-, hstored⟩
    cases w with
    | w64 => exact Or.inl rfl
    | w32 =>
        right
        by_contra hlong
        obtain ⟨f₀, hshort⟩ := createFixture_shortName page .w32
        obtain ⟨f, hcreated, -⟩ := hstored _ _ _ _ _ _ hshort
        have hout : ¬ name.chars.length + (mangledSuffix .w32).length < cfixMaxFixtureNameCch := hlong
        rw [createFixture_rename hshort, renamed, length_nameText, if_neg hout] at hcreated
        cases hcreated
  · intro hfits
    refine ⟨fun m a => isFixtureExport_exportText, storesName_of_fits page ?_⟩
    rcases hfits with rfl | hfits
    · exact name.length_lt
    · cases w with
      | w64 => exact name.length_lt
      | w32 => exact hfits

/-! ### A name of 126 characters -/

/-- The code page that has the first 256 characters. -/
def latin1 : CodePage where
  decode text :=
    { chars   := (widen text).takeWhile (· ≠ 0#16)
      nonzero := fun _ hc => by simpa using List.mem_takeWhile_imp hc }
  ascii := by
    intro text htext
    show (widen text).takeWhile (· ≠ 0#16) = widen text
    rw [List.takeWhile_eq_self_iff]
    intro c hc
    obtain ⟨b, hb, rfl⟩ := List.mem_map.mp hc
    apply decide_eq_true
    intro heq
    have hnat := congrArg BitVec.toNat heq
    rw [BitVec.toNat_ofNat] at hnat
    have hvalue : b.toNat % 2 ^ 16 = 0 := hnat
    have hascii := htext b hb
    omega

theorem isIdentifier_replicate (n : Nat) : IsIdentifier (List.replicate (n + 1) 0x41) := by
  rw [List.replicate_succ]
  refine ⟨by decide, ?_⟩
  intro c hc
  obtain rfl := List.eq_of_mem_replicate hc
  decide

/-- A name of this length, plus 1. -/
def repeated (n : Nat) (h : n + 1 < cfixMaxFixtureNameCch) : FixtureName where
  chars      := List.replicate (n + 1) 0x41
  identifier := isIdentifier_replicate n
  length_lt  := by
    rw [List.length_replicate]
    exact h

/-- A name of 126 characters. -/
def longName : FixtureName := repeated 125 (by decide)

theorem length_longName : longName.chars.length = 126 := List.length_replicate

/-- On 32 bits the export of this name does not become a fixture. -/
theorem not_roundTrips_longName : ¬ ∀ (page : CodePage) (w : Width) (name : FixtureName), RoundTrips page w name := by
  intro hall
  obtain ⟨f₀, hshort⟩ := createFixture_shortName latin1 .w32
  obtain ⟨f, hcreated, -⟩ := (hall latin1 .w32 longName).stored _ _ _ _ _ _ hshort
  have hlong : ¬ longName.chars.length + (mangledSuffix .w32).length < cfixMaxFixtureNameCch := by
    rw [length_longName]
    decide
  rw [createFixture_rename hshort, renamed, length_nameText, if_neg hlong] at hcreated
  cases hcreated

end Cfix.PeFixture
