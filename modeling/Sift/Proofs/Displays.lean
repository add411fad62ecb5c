import Sift.Proofs.PlainNotation
import Sift.Proofs.QuotedTexts
import Sift.Value.Display

/-!
# Texts of values

The text of a value can be read in only one way. Its first character shows what kind of value it is,
and it shows itself where it ends: words and quoted texts do, lists and maps end with their closing
bracket, and a number goes on until a comma, a closing bracket or the end of the text.

**Parts.** Between brackets, a part is followed by a comma or by the closing bracket, and neither is
the first character of a part. So if the parts can be read in only one way, the whole can
(`commaJoin_append_inj`).

**Main result.** Values without objects have different texts unless they are the same
(`display_eq_iff`). Objects are left out since their identities may hold any characters.
-/

namespace Sift.Value

/-! ## Values without objects -/

mutual

/-- Whether a value holds no object. -/
def isObjectFree : Value → Bool
  | list items => areObjectFree items
  | map entries => holdNoObject entries
  | object _ _ => false
  | _ => true

/-- Whether no value of a list holds an object. -/
def areObjectFree : List Value → Bool
  | [] => true
  | v :: vs => isObjectFree v && areObjectFree vs

/-- Whether no value of some entries holds an object. -/
def holdNoObject : List (String × Value) → Bool
  | [] => true
  | (_, v) :: rest => isObjectFree v && holdNoObject rest

end

theorem areObjectFree_iff {vs : List Value} :
    areObjectFree vs = true ↔ ∀ v ∈ vs, v.isObjectFree = true := by
  induction vs with
  | nil => exact iff_of_true rfl (List.forall_mem_nil _)
  | cons v vs ih => rw [areObjectFree, Bool.and_eq_true, ih, List.forall_mem_cons]

theorem holdNoObject_iff {es : List (String × Value)} :
    holdNoObject es = true ↔ ∀ e ∈ es, e.2.isObjectFree = true := by
  induction es with
  | nil => exact iff_of_true rfl (List.forall_mem_nil _)
  | cons e es ih => rw [holdNoObject, Bool.and_eq_true, ih, List.forall_mem_cons]

/-! ## First characters -/

/-- The kind of the values whose texts start with a character. -/
def kindOf? (c : Char) : Option String :=
  if c = 'n' then some "null"
  else if c = 't' ∨ c = 'f' then some "bool"
  else if c ∈ ['-', 'i', 'N'] ∨ c.isDigit then some "number"
  else if c = '"' then some "string"
  else if c = '[' then some "list"
  else if c = '\x7b' then some "map"
  else if c = '<' then some "object"
  else none

theorem kindOf?_number {c : Char} (h : c ∈ ['-', 'i', 'N'] ∨ c.isDigit = true) :
    kindOf? c = some "number" := by
  have hother : ∀ d ∈ ['n', 't', 'f'], c ≠ d := by
    intro d hd
    rcases h with h | h
    · have hall : ∀ c ∈ ['-', 'i', 'N'], ∀ d ∈ ['n', 't', 'f'], c ≠ d := by simp
      exact hall c h d hd
    · have hnone : ∀ d ∈ ['n', 't', 'f'], d.isDigit = false := by simp
      exact Grammar.ne_of_isDigit h (hnone d hd)
  have hbool : ¬ (c = 't' ∨ c = 'f') := not_or.2 ⟨hother 't' (by decide), hother 'f' (by decide)⟩
  rw [kindOf?, if_neg (hother 'n' (by decide)), if_neg hbool, if_pos h]

/-- **The first character of a text shows the kind of value.** -/
theorem head_display (v : Value) : ∃ c r, v.display = c :: r ∧ kindOf? c = some v.typeName := by
  cases v with
  | null => exact ⟨'n', _, rfl, rfl⟩
  | bool b => cases b <;> exact ⟨_, _, rfl, rfl⟩
  | number x =>
    obtain ⟨c, r, htext, hc⟩ := x.head_display []
    rw [List.append_nil] at htext
    exact ⟨c, r, htext, kindOf?_number hc⟩
  | string s => exact ⟨'"', _, rfl, rfl⟩
  | list vs => exact ⟨'[', _, rfl, rfl⟩
  | map es => exact ⟨'\x7b', _, rfl, rfl⟩
  | object o es => exact ⟨'<', _, rfl, rfl⟩

variable {v w : Value} {r r' : List Char}

theorem typeName_eq_of_display_append (h : v.display ++ r = w.display ++ r') :
    v.typeName = w.typeName := by
  obtain ⟨c, s, hv, hkind⟩ := head_display v
  obtain ⟨c', s', hw, hkind'⟩ := head_display w
  rw [hv, hw] at h
  obtain rfl : c = c' := (List.cons.inj h).1
  exact Option.some.inj (hkind.symm.trans hkind')

/-! ## Parts between brackets -/

theorem displayList_eq_map (vs : List Value) : displayList vs = vs.map display := by
  induction vs with
  | nil => rfl
  | cons v vs ih => rw [displayList, ih, List.map_cons]

/-- The text of an entry. -/
def entryText (e : String × Value) : List Char :=
  Text.quote e.1.toList ++ ':' :: ' ' :: display e.2

theorem displayEntries_eq_map (es : List (String × Value)) :
    displayEntries es = es.map entryText := by
  induction es with
  | nil => rfl
  | cons e es ih => rw [displayEntries, ih, List.map_cons, entryText]

theorem display_list_append (vs : List Value) (r : List Char) :
    (list vs).display ++ r = '[' :: (commaJoin (vs.map display) ++ ']' :: r) := by
  simp [display, displayList_eq_map]

theorem display_map_append (es : List (String × Value)) (r : List Char) :
    (map es).display ++ r = '\x7b' :: (commaJoin (es.map entryText) ++ '\x7d' :: r) := by
  simp [display, displayEntries_eq_map]

theorem commaJoin_cons (part : List Char) (parts : List (List Char)) :
    commaJoin (part :: parts) = part ++ parts.flatMap fun p => ',' :: ' ' :: p := by
  induction parts generalizing part with
  | nil => exact (List.append_nil part).symm
  | cons p ps ih =>
    have hjoin : commaJoin (part :: p :: ps) = part ++ ',' :: ' ' :: commaJoin (p :: ps) := rfl
    rw [hjoin, ih, List.flatMap_cons]
    rfl

/-- What follows is the end of the text, another part, or the end of a list or a map. -/
def EndsValue (s : List Char) : Prop := ∀ c ∈ s.head?, c ∈ [',', ']', '\x7d']

theorem EndsValue.endsNumber {s : List Char} (h : EndsValue s) : Grammar.EndsNumber s := by
  have hall : ∀ c ∈ [',', ']', '\x7d'], c.isDigit = false ∧ c ≠ '.' := by simp
  exact fun c hc => hall c (h c hc)

section

variable {α : Type} {text : α → List Char} {as bs : List α} {close : Char}

/-- The texts of two things show which one it is and where it ends. -/
def ApartBy (text : α → List Char) (a b : α) : Prop :=
  ∀ r r', EndsValue r → EndsValue r' → text a ++ r = text b ++ r' → a = b ∧ r = r'

/-- The parts behind the first one, with their commas. -/
def furtherParts (text : α → List Char) (as : List α) : List Char :=
  (as.map text).flatMap fun p => ',' :: ' ' :: p

theorem furtherParts_cons (a : α) (as : List α) :
    furtherParts text (a :: as) = ',' :: ' ' :: commaJoin ((a :: as).map text) := by
  rw [List.map_cons, commaJoin_cons]
  rfl

theorem endsValue_furtherParts (hclose : close ∈ [']', '\x7d']) (as : List α) (r : List Char) :
    EndsValue (furtherParts text as ++ close :: r) := by
  intro c hc
  cases as with
  | nil =>
    obtain rfl : close = c := Option.some.inj hc
    exact List.mem_cons_of_mem _ hclose
  | cons a as =>
    obtain rfl : ',' = c := Option.some.inj hc
    exact List.mem_cons_self

theorem furtherParts_append_inj (hclose : close ∈ [']', '\x7d'])
    (h : ∀ a ∈ as, ∀ b ∈ bs, ApartBy text a b)
    (heq : furtherParts text as ++ close :: r = furtherParts text bs ++ close :: r') :
    as = bs ∧ r = r' := by
  have hcomma : close ≠ ',' := by
    rintro rfl
    revert hclose
    decide
  induction as generalizing bs with
  | nil =>
    cases bs with
    | nil => exact ⟨rfl, (List.cons.inj heq).2⟩
    | cons b bs => exact absurd (List.cons.inj heq).1 hcomma
  | cons a as ih =>
    cases bs with
    | nil => exact absurd (List.cons.inj heq).1.symm hcomma
    | cons b bs =>
      have hparts : text a ++ (furtherParts text as ++ close :: r) =
          text b ++ (furtherParts text bs ++ close :: r') := by
        simpa [furtherParts] using heq
      obtain ⟨rfl, hrest⟩ := h a List.mem_cons_self b List.mem_cons_self _ _
        (endsValue_furtherParts hclose as r) (endsValue_furtherParts hclose bs r') hparts
      obtain ⟨rfl, hend⟩ := ih (fun a' ha b' hb =>
        h a' (List.mem_cons_of_mem _ ha) b' (List.mem_cons_of_mem _ hb)) hrest
      exact ⟨rfl, hend⟩

/-- **Parts between brackets** show where the brackets close, if they are apart and none starts
with the closing bracket. -/
theorem commaJoin_append_inj (hclose : close ∈ [']', '\x7d'])
    (hstart : ∀ a, ∃ c s, text a = c :: s ∧ c ≠ close) (h : ∀ a ∈ as, ∀ b ∈ bs, ApartBy text a b)
    (heq : commaJoin (as.map text) ++ close :: r = commaJoin (bs.map text) ++ close :: r') :
    as = bs ∧ r = r' := by
  cases as with
  | nil =>
    cases bs with
    | nil => exact ⟨rfl, (List.cons.inj heq).2⟩
    | cons b bs =>
      obtain ⟨c, s, hb, hc⟩ := hstart b
      rw [List.map_cons, commaJoin_cons, hb] at heq
      exact absurd (List.cons.inj heq).1.symm hc
  | cons a as =>
    obtain ⟨c, s, ha, hc⟩ := hstart a
    cases bs with
    | nil =>
      rw [List.map_cons, commaJoin_cons, ha] at heq
      exact absurd (List.cons.inj heq).1 hc
    | cons b bs =>
      -- With a comma in front, the first parts are further parts as well.
      refine furtherParts_append_inj hclose h ?_
      rw [furtherParts_cons, furtherParts_cons]
      exact congrArg (fun s => ',' :: ' ' :: s) heq

end

/-! ## One way to read a value -/

variable {es fs : List (String × Value)} {vs ws : List Value}

theorem apartBy_of_typeName_ne (h : v.typeName ≠ w.typeName) : ApartBy display v w :=
  fun _ _ _ _ heq => absurd (typeName_eq_of_display_append heq) h

theorem apartBy_bool (b b' : Bool) : ApartBy display (bool b) (bool b') := by
  intro r r' _ _ heq
  cases b <;> cases b'
  · exact ⟨rfl, List.append_cancel_left heq⟩
  · exact absurd (List.cons.inj heq).1 (by decide)
  · exact absurd (List.cons.inj heq).1 (by decide)
  · exact ⟨rfl, List.append_cancel_left heq⟩

theorem apartBy_number (x y : Number) : ApartBy display (number x) (number y) := by
  intro r r' hr hr' heq
  obtain ⟨rfl, hrest⟩ := Number.display_append_inj hr.endsNumber hr'.endsNumber heq
  exact ⟨rfl, hrest⟩

theorem apartBy_string (s t : String) : ApartBy display (string s) (string t) := by
  intro r r' _ _ heq
  obtain ⟨htext, hrest⟩ := Text.quote_append_inj heq
  exact ⟨by rw [String.toList_inj.1 htext], hrest⟩

/-- A list is read in one way if its elements are. -/
theorem apartBy_list (h : ∀ v ∈ vs, ∀ w ∈ ws, ApartBy display v w) :
    ApartBy display (list vs) (list ws) := by
  intro r r' _ _ heq
  have hstart : ∀ v : Value, ∃ c s, v.display = c :: s ∧ c ≠ ']' := by
    intro v
    obtain ⟨c, s, htext, hkind⟩ := head_display v
    refine ⟨c, s, htext, ?_⟩
    rintro rfl
    cases hkind
  rw [display_list_append, display_list_append] at heq
  obtain ⟨rfl, hrest⟩ := commaJoin_append_inj (by decide) hstart h (List.cons.inj heq).2
  exact ⟨rfl, hrest⟩

/-- An entry is read in one way if its value is. -/
theorem apartBy_entry {e f : String × Value} (h : ApartBy display e.2 f.2) :
    ApartBy entryText e f := by
  intro r r' hr hr' heq
  rw [entryText, entryText, List.append_assoc, List.append_assoc] at heq
  obtain ⟨hkey, hrest⟩ := Text.quote_append_inj heq
  obtain ⟨hvalue, hend⟩ := h r r' hr hr' (List.cons.inj (List.cons.inj hrest).2).2
  exact ⟨Prod.ext (String.toList_inj.1 hkey) hvalue, hend⟩

/-- A map is read in one way if the values of its entries are. -/
theorem apartBy_map (h : ∀ e ∈ es, ∀ f ∈ fs, ApartBy display e.2 f.2) :
    ApartBy display (map es) (map fs) := by
  intro r r' _ _ heq
  have hstart : ∀ e : String × Value, ∃ c s, entryText e = c :: s ∧ c ≠ '\x7d' := fun e =>
    ⟨'"', _, rfl, by decide⟩
  rw [display_map_append, display_map_append] at heq
  obtain ⟨rfl, hrest⟩ := commaJoin_append_inj (by decide) hstart
    (fun e he f hf => apartBy_entry (h e he f hf)) (List.cons.inj heq).2
  exact ⟨rfl, hrest⟩

mutual

/-- **The text of a value shows which value it is and where it ends.** -/
theorem apartBy_display : ∀ v : Value, v.isObjectFree = true → ∀ w : Value,
    w.isObjectFree = true → ApartBy display v w
  | null, _, w, _ => by
    cases w with
    | null => exact fun _ _ _ _ heq => ⟨rfl, List.append_cancel_left heq⟩
    | _ => exact apartBy_of_typeName_ne (by simp [typeName])
  | bool b, _, w, _ => by
    cases w with
    | bool b' => exact apartBy_bool b b'
    | _ => exact apartBy_of_typeName_ne (by simp [typeName])
  | number x, _, w, _ => by
    cases w with
    | number y => exact apartBy_number x y
    | _ => exact apartBy_of_typeName_ne (by simp [typeName])
  | string s, _, w, _ => by
    cases w with
    | string t => exact apartBy_string s t
    | _ => exact apartBy_of_typeName_ne (by simp [typeName])
  | list vs, hv, w, hw => by
    cases w with
    | list ws =>
      exact apartBy_list fun v hmem w hmem' =>
        apartBy_display_elements vs hv v hmem w (areObjectFree_iff.1 hw w hmem')
    | _ => exact apartBy_of_typeName_ne (by simp [typeName])
  | map es, hv, w, hw => by
    cases w with
    | map fs =>
      exact apartBy_map fun e hmem f hmem' =>
        apartBy_display_entries es hv e hmem f.2 (holdNoObject_iff.1 hw f hmem')
    | _ => exact apartBy_of_typeName_ne (by simp [typeName])

theorem apartBy_display_elements : ∀ vs : List Value, areObjectFree vs = true →
    ∀ v ∈ vs, ∀ w : Value, w.isObjectFree = true → ApartBy display v w
  | [], _ => List.forall_mem_nil _
  | v :: vs, h => by
    rw [areObjectFree, Bool.and_eq_true] at h
    exact List.forall_mem_cons.2 ⟨apartBy_display v h.1, apartBy_display_elements vs h.2⟩

theorem apartBy_display_entries : ∀ es : List (String × Value), holdNoObject es = true →
    ∀ e ∈ es, ∀ w : Value, w.isObjectFree = true → ApartBy display e.2 w
  | [], _ => List.forall_mem_nil _
  | (_, v) :: es, h => by
    rw [holdNoObject, Bool.and_eq_true] at h
    exact List.forall_mem_cons.2 ⟨apartBy_display v h.1, apartBy_display_entries es h.2⟩

end

/-- **Texts of values are unambiguous.** Values without objects have the same text exactly if they
are the same value. -/
theorem display_eq_iff (hv : v.isObjectFree = true) (hw : w.isObjectFree = true) :
    v.display = w.display ↔ v = w := by
  constructor
  · intro h
    have hends : EndsValue [] := fun _ hc => by cases hc
    exact (apartBy_display v hv w hw [] [] hends hends (by rw [h])).1
  · rintro rfl
    rfl

/-- A list of a text that has the separator between quotes in it. -/
def quotedSeparator : Value := .list [.string "a\", \"b", .number .nan]

/-- The list that the text looks like. -/
def separatedTexts : Value := .list [.string "a", .string "b", .number .nan]

theorem display_eq_iff_separated :
    (quotedSeparator.isObjectFree = true ∧ separatedTexts.isObjectFree = true) ∧
    quotedSeparator.display ≠ separatedTexts.display := by
  have hv : quotedSeparator.isObjectFree = true := rfl
  have hw : separatedTexts.isObjectFree = true := rfl
  have hne : quotedSeparator ≠ separatedTexts := by simp [quotedSeparator, separatedTexts]
  exact ⟨⟨hv, hw⟩, mt (display_eq_iff hv hw).1 hne⟩

end Sift.Value
