import Mathlib.Data.List.Forall2
import RefactorAudit.Proofs.Syntax.Node

/-!
# The text of a key

A key is the text of an object with three fields, their names in ascending order.
`Metadata.KeyText` says what stands in each, down to the escapes of single characters.
The key is the only such text (`Metadata.keyText_iff`), all of it is printable ASCII
(`Metadata.printable_key`), and no other metadata has it
(`Metadata.key_written_injectively`).
-/

namespace RefactorAudit

open Json

namespace Json

/-! ## Texts and lists of texts -/

/-- A text between quotes, each of its characters escaped. -/
def QuotedText (s : String) (text : List Char) : Prop :=
  ∃ parts, List.Forall₂ Escape s.toList parts ∧ text = '"' :: parts.flatten ++ ['"']

/-- Quoted texts between brackets, a comma and a blank between each two. -/
def ListText (items : List String) (text : List Char) : Prop :=
  ∃ parts, List.Forall₂ QuotedText items parts ∧ text = '[' :: [',', ' '].intercalate parts ++ [']']

/-- Where every value has one text, every list of values has one list of texts. -/
theorem forall₂_iff_map_eq {α : Type} {Text : α → List Char → Prop} {write : α → List Char}
    (h : ∀ a text, Text a text ↔ write a = text) (xs : List α) (parts : List (List Char)) :
    List.Forall₂ Text xs parts ↔ xs.map write = parts := by
  induction xs generalizing parts with
  | nil => simp [eq_comm]
  | cons x xs ih =>
    cases parts with
    | nil => simp
    | cons part parts => simp [h, ih]

theorem quotedText_iff (s : String) (text : List Char) : QuotedText s text ↔ quoted s = text := by
  have hparts := forall₂_iff_map_eq escape_iff s.toList
  simp only [QuotedText, hparts, exists_eq_left', quoted, List.flatMap_def]
  exact eq_comm

theorem listText_iff (items : List String) (text : List Char) :
    ListText items text ↔ Metadata.listChars items = text := by
  have hparts := forall₂_iff_map_eq quotedText_iff items
  simp only [ListText, hparts, exists_eq_left', Metadata.listChars, chars, Metadata.charsOfItems_map_str]
  exact eq_comm

/-! ## Printable texts -/

def Printable (cs : List Char) : Prop := ∀ c ∈ cs, IsPrintable c

instance decidablePrintable (cs : List Char) : Decidable (Printable cs) := List.decidableBAll IsPrintable cs

theorem printable_append {cs ds : List Char} : Printable (cs ++ ds) ↔ Printable cs ∧ Printable ds :=
  List.forall_mem_append

theorem printable_flatMap {α : Type} {write : α → List Char} (h : ∀ x, Printable (write x)) (xs : List α) :
    Printable (xs.flatMap write) := by
  intro c hc
  obtain ⟨x, -, hx⟩ := List.mem_flatMap.1 hc
  exact h x c hx

theorem isPrintable_hexDigit : ∀ d : Fin 16, IsPrintable (hexDigit d) := by decide

theorem UnitText.printable {u : Nat} {cs : List Char} (h : UnitText u cs) : Printable cs := by
  obtain ⟨a, b, c, d, -, rfl⟩ := h
  have hopening : Printable ['\\', 'u'] := by decide
  have hdigits : Printable [hexDigit a, hexDigit b, hexDigit c, hexDigit d] := by
    simp [Printable, isPrintable_hexDigit]
  exact printable_append.2 ⟨hopening, hdigits⟩

theorem Escape.printable {c : Char} {cs : List Char} (h : Escape c cs) : Printable cs := by
  cases h with
  | short h => exact of_mem_shortEscapes (P := fun e _ => Printable ['\\', e]) (by decide) h
  | plain hprintable => simpa [Printable] using hprintable
  | unit _ _ h => exact h.printable
  | surrogates _ _ _ h h' => exact printable_append.2 ⟨h.printable, h'.printable⟩

theorem printable_quoted (s : String) : Printable (quoted s) := by
  have hquote : Printable ['"'] := by decide
  have hescaped := printable_flatMap (fun c => (escape_escapeChar c).printable) s.toList
  exact printable_append.2 ⟨printable_append.2 ⟨hquote, hescaped⟩, hquote⟩

end Json

namespace Metadata

theorem printable_listChars (items : List String) : Printable (listChars items) := by
  rw [listChars, chars, charsOfItems_map_str]
  cases items with
  | nil => decide
  | cons s items =>
    have hopening : Printable ['['] := by decide
    have hclosing : Printable [']'] := by decide
    have hcomma : Printable [',', ' '] := by decide
    have hrest := printable_flatMap (fun t => printable_append.2 ⟨hcomma, printable_quoted t⟩) items
    rw [intercalate_map_cons]
    exact printable_append.2 ⟨printable_append.2 ⟨hopening, printable_append.2 ⟨printable_quoted s, hrest⟩⟩, hclosing⟩

theorem printable_nameChars (name : Option String) : Printable (nameChars name) := by
  cases name with
  | none => decide
  | some s => exact printable_quoted s

/-! ## Keys -/

/-- `null` where no name is declared, and the quoted name otherwise. -/
inductive NameText : Option String → List Char → Prop
  | null : NameText none "null".toList
  | quoted {s : String} {text : List Char} (h : QuotedText s text) : NameText (some s) text

/-- Imports, name and parameters, each behind the name of its field. -/
def KeyText (m : Metadata) (text : String) : Prop :=
  ∃ imports name parameters, ListText m.imports imports ∧ NameText m.name name ∧ ListText m.parameters parameters ∧
    text.toList = "\x7b\"imports\": ".toList ++ imports ++ ", \"name\": ".toList ++ name ++
      ", \"parameters\": ".toList ++ parameters ++ ['\x7d']

theorem nameText_iff (name : Option String) (text : List Char) : NameText name text ↔ nameChars name = text := by
  constructor
  · rintro (_ | h)
    · rfl
    · exact (quotedText_iff _ _).1 h
  · rintro rfl
    cases name with
    | none => exact .null
    | some s => exact .quoted ((quotedText_iff _ _).2 rfl)

theorem keyText_iff (m : Metadata) (text : String) : m.KeyText text ↔ m.key = text := by
  simp only [KeyText, listText_iff, nameText_iff]
  rw [← String.toList_inj, toList_key]
  constructor
  · rintro ⟨_, _, _, rfl, rfl, rfl, htext⟩
    rw [htext]
    simp only [List.append_assoc]
  · intro htext
    refine ⟨_, _, _, rfl, rfl, rfl, ?_⟩
    rw [← htext]
    simp only [List.append_assoc]

theorem printable_key (m : Metadata) : Printable m.key.toList := by
  rw [toList_key]
  simp only [printable_append, printable_listChars, printable_nameChars, true_and]
  decide

/-- The key is the one text of its form, printable ASCII, and determines the metadata. -/
theorem key_written_injectively (m m' : Metadata) (text : String) :
    (m.KeyText text ↔ m.key = text) ∧ Printable m.key.toList ∧ (m.key = m'.key ↔ m = m') :=
  ⟨m.keyText_iff text, m.printable_key, key_eq_iff⟩

-- a quote and a surrogate pair in a name, a separator in a parameter
example : (⟨some "\"😀", ["", "a, b"], []⟩ : Metadata).key =
    "\x7b\"imports\": [], \"name\": \"\\\"\\ud83d\\ude00\", \"parameters\": [\"\", \"a, b\"]\x7d" := by
  decide +kernel

end Metadata

end RefactorAudit
