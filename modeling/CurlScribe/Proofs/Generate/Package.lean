import CurlScribe.Generate.Config
import CurlScribe.Java.Name
import CurlScribe.Proofs.Text.Trim
import CurlScribe.Proofs.Text.Visible
import Mathlib.Computability.Language

/-! Which texts pass as packages: those of a regular language, whose parts are names in Java unless
they are keywords. -/
namespace CurlScribe

open Computability

/-! Texts of a class of characters. -/

/-- One character out of a class. -/
def oneOf (p : Char → Bool) : Language Char := {cs | ∃ c, p c = true ∧ cs = [c]}

theorem mem_kstar_oneOf {p : Char → Bool} {cs : List Char} :
    cs ∈ (oneOf p)∗ ↔ ∀ c ∈ cs, p c = true := by
  rw [Language.mem_kstar]
  constructor
  · rintro ⟨texts, rfl, htexts⟩ c hc
    obtain ⟨text, htext, hc⟩ := List.mem_flatten.mp hc
    obtain ⟨d, hd, rfl⟩ := htexts text htext
    obtain rfl := List.mem_singleton.mp hc
    exact hd
  · intro h
    refine ⟨cs.map fun c => [c], ?_, ?_⟩
    · simp [← List.flatMap_def]
    · intro text htext
      obtain ⟨c, hc, rfl⟩ := List.mem_map.mp htext
      exact ⟨c, h c hc, rfl⟩

namespace Config

variable {c : Config} {text : String} {cs part : List Char} {ps : List (List Char)}

/-! The language of packages. -/

def startsPart (c : Char) : Bool := c.isAlpha || c == '_' || c == '$'

def continuesPart (c : Char) : Bool := Text.isWordChar c || c == '$'

/-- A character that starts a part, and then any that continue it. -/
def parts : Language Char := oneOf startsPart * (oneOf continuesPart)∗

/-- A part, and then any others with a dot before each. -/
def packages : Language Char := parts * (oneOf (· == '.') * parts)∗

theorem mem_parts : part ∈ parts ↔
    ∃ c rest, part = c :: rest ∧ startsPart c = true ∧ ∀ d ∈ rest, continuesPart d = true := by
  rw [parts, Language.mem_mul]
  constructor
  · rintro ⟨_, ⟨c, hc, rfl⟩, rest, hrest, rfl⟩
    exact ⟨c, rest, rfl, hc, mem_kstar_oneOf.mp hrest⟩
  · rintro ⟨c, rest, rfl, hc, hrest⟩
    exact ⟨[c], ⟨c, hc, rfl⟩, rest, mem_kstar_oneOf.mpr hrest, rfl⟩

theorem isPackagePart_iff (part : List Char) : isPackagePart part = true ↔ part ∈ parts := by
  rw [mem_parts]
  cases part with
  | nil => simp [isPackagePart]
  | cons c rest => simp [isPackagePart, startsPart, continuesPart]

theorem dot_not_mem (h : part ∈ parts) : '.' ∉ part := by
  obtain ⟨c, rest, rfl, hc, hrest⟩ := mem_parts.mp h
  rintro (_ | hdot)
  · exact absurd hc (by decide)
  · exact absurd (hrest _ ‹_›) (by decide)

/-- Parts with a dot before each, behind the first one. -/
theorem intercalate_cons (sep : Char) (part : List Char) (ps : List (List Char)) :
    [sep].intercalate (part :: ps) = part ++ (ps.map (sep :: ·)).flatten := by
  induction ps generalizing part with
  | nil => simp
  | cons next ps ih => rw [List.intercalate_cons_cons, ih next]; simp

theorem mem_packages_of_parts (h : ∀ part ∈ cs.splitOn '.', part ∈ parts) : cs ∈ packages := by
  obtain ⟨first, more, hcut⟩ := List.exists_cons_of_ne_nil (List.splitOn_ne_nil '.' cs)
  rw [hcut] at h
  have hjoin : [ '.'].intercalate (cs.splitOn '.') = cs := List.intercalate_splitOn '.'
  rw [hcut, intercalate_cons] at hjoin
  rw [packages, Language.mem_mul]
  refine ⟨first, h first List.mem_cons_self, _, Language.join_mem_kstar ?_, hjoin⟩
  intro text htext
  obtain ⟨part, hpart, rfl⟩ := List.mem_map.mp htext
  have hdot : ['.'] ∈ oneOf (· == '.') := ⟨'.', rfl, rfl⟩
  exact Language.append_mem_mul hdot (h part (List.mem_cons_of_mem _ hpart))

theorem exists_parts {texts : List (List Char)}
    (h : ∀ text ∈ texts, text ∈ oneOf (· == '.') * parts) :
    ∃ ps : List (List Char), texts = ps.map ('.' :: ·) ∧ ∀ part ∈ ps, part ∈ parts := by
  induction texts with
  | nil => exact ⟨[], rfl, by simp⟩
  | cons text texts ih =>
    obtain ⟨htext, htexts⟩ := List.forall_mem_cons.mp h
    obtain ⟨_, ⟨dot, hdot, rfl⟩, part, hpart, rfl⟩ := Language.mem_mul.mp htext
    obtain rfl := beq_iff_eq.mp hdot
    obtain ⟨ps, rfl, hps⟩ := ih htexts
    exact ⟨part :: ps, rfl, List.forall_mem_cons.mpr ⟨hpart, hps⟩⟩

/-- A text is a package exactly where all that stands between its dots are parts. -/
theorem mem_packages_iff : cs ∈ packages ↔ ∀ part ∈ cs.splitOn '.', part ∈ parts := by
  refine ⟨?_, mem_packages_of_parts⟩
  intro h
  obtain ⟨first, hfirst, _, hmore, rfl⟩ := Language.mem_mul.mp h
  obtain ⟨texts, rfl, htexts⟩ := Language.mem_kstar.mp hmore
  obtain ⟨ps, rfl, hps⟩ := exists_parts htexts
  have hall : ∀ part ∈ first :: ps, part ∈ parts := List.forall_mem_cons.mpr ⟨hfirst, hps⟩
  -- without dots of their own, the parts come back where the text is cut at its dots
  have hdots : ∀ part ∈ first :: ps, '.' ∉ part := fun part hpart => dot_not_mem (hall part hpart)
  rw [← intercalate_cons, List.splitOn_intercalate '.' hdots (List.cons_ne_nil _ _)]
  exact hall

theorem isPackage_iff (s : String) : isPackage s = true ↔ s.toList ∈ packages := by
  rw [isPackage, List.all_eq_true, mem_packages_iff]
  simp only [isPackagePart_iff]

/-! Settings with a package. -/

/-- A package is looked at by itself. -/
theorem validate_package_iff {p : String} (hp : c.package? = some p) :
    c.validate = .ok () ↔
      ({ c with packageName := none } : Config).validate = .ok () ∧ isPackage p = true := by
  have hnone : ({ c with packageName := none } : Config).package? = none := rfl
  have hstatus : ({ c with packageName := none } : Config).statusNumber = c.statusNumber := rfl
  simp [validate_ok_iff, hp, hnone, hstatus, and_assoc]

theorem package_of_not_blank (hname : c.packageName = some text) (ht : Text.blank text = false) :
    c.package? = some (Text.trimmed text) := by
  have hsome : Text.trimmed text ≠ "" := by
    intro hempty
    rw [Text.trimmed_eq_empty_iff, ht] at hempty
    cases hempty
  simp [package?, hname, hsome]

/-- A part that may stand in a package: a name that does not start with a digit, and no keyword. -/
structure IsValidPart (part : List Char) : Prop where
  isName : ∃ c rest, part = c :: rest ∧ startsPart c = true ∧ c.isDigit = false ∧
    ∀ d ∈ rest, continuesPart d = true
  unreserved : Java.isKeyword (String.ofList part) = false

theorem not_isDigit_of_startsPart {c : Char} (h : startsPart c = true) : c.isDigit = false := by
  simp only [startsPart, Bool.or_eq_true, beq_iff_eq] at h
  rcases h with (h | rfl) | rfl
  · have hall : ∀ n < 0x80, (Char.ofNat n).isAlpha = true → (Char.ofNat n).isDigit = false := by
      decide
    exact Text.of_ascii (P := fun c => c.isAlpha = true → c.isDigit = false) hall
      (Text.ascii_of_isAlpha h) h
  · rfl
  · rfl

theorem isValidPart_iff (h : part ∈ parts) :
    IsValidPart part ↔ Java.isKeyword (String.ofList part) = false := by
  obtain ⟨c, rest, rfl, hc, hrest⟩ := mem_parts.mp h
  exact ⟨IsValidPart.unreserved, fun hkey =>
    ⟨⟨c, rest, rfl, hc, not_isDigit_of_startsPart hc, hrest⟩, hkey⟩⟩

/-- Settings with a package are accepted exactly where they would be without it and its text is that
of a package. Its parts are valid then, unless they are keywords. -/
theorem accepts_package_iff (hname : c.packageName = some text) (ht : Text.blank text = false) :
    (c.validate = .ok () ↔ ({ c with packageName := none } : Config).validate = .ok () ∧
      (Text.trimmed text).toList ∈ packages) ∧
    (c.validate = .ok () →
      ((∀ part ∈ (Text.trimmed text).toList.splitOn '.', IsValidPart part) ↔
        ∀ part ∈ (Text.trimmed text).toList.splitOn '.',
          Java.isKeyword (String.ofList part) = false)) := by
  have hiff := validate_package_iff (package_of_not_blank hname ht)
  rw [isPackage_iff] at hiff
  refine ⟨hiff, ?_⟩
  intro hvalid
  have hparts := mem_packages_iff.mp (hiff.mp hvalid).2
  exact forall₂_congr fun part hpart => isValidPart_iff (hparts part hpart)

def orders : Config := { packageName := some " com.example_2.$orders\n" }

theorem orders_package_is_valid :
    orders.packageName = some " com.example_2.$orders\n" ∧
      Text.blank " com.example_2.$orders\n" = false ∧ orders.validate = .ok () ∧
      ∀ part ∈ (Text.trimmed " com.example_2.$orders\n").toList.splitOn '.',
        IsValidPart part := by
  have hblank : Text.blank " com.example_2.$orders\n" = false := by decide
  have hvalid : orders.validate = .ok () := by decide +kernel
  have hall := accepts_package_iff (c := orders) rfl hblank
  exact ⟨rfl, hblank, hvalid, (hall.2 hvalid).mpr (by decide +kernel)⟩

/-- A package with a keyword for a part is accepted. -/
theorem keyword_passes_as_package : ∃ c : Config, ∃ text,
    c.packageName = some text ∧ Text.blank text = false ∧ c.validate = .ok () ∧
      ∃ part ∈ (Text.trimmed text).toList.splitOn '.', Java.isKeyword (String.ofList part) = true :=
  ⟨{ packageName := some "com.new.api" }, "com.new.api", rfl, by decide, by decide +kernel,
    by decide +kernel⟩

end Config

end CurlScribe
