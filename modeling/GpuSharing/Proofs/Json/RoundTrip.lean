import GpuSharing.Json.Reader
import GpuSharing.Json.Writer
import GpuSharing.Proofs.Json.Number
import GpuSharing.Proofs.Json.Text

/-!
# JSON values written and read back

The compact text of a value is read back as that value, unless there is a double in it, whose
digits are rounded again, or something that no text stands for.
-/

set_option autoImplicit false

namespace GpuSharing.Json

mutual

/-- Whether the text of the value stands for it exactly. -/
def isExact : Json → Bool
  | .null | .bool _ | .string _ => true
  | .integer value => IsWord value
  | .array items => allExact items
  | .object members => membersExact members
  | .float _ | .unreadable => false

def allExact : List Json → Bool
  | [] => true
  | item :: rest => item.isExact && allExact rest

def membersExact : List (String × Json) → Bool
  | [] => true
  | (_, value) :: rest => value.isExact && membersExact rest

end

section Beginnings

/-- A text that does not begin with a gap and ends no list. -/
def Begins (chars : List Char) : Prop :=
  ∃ first rest, chars = first :: rest ∧ isGap first = false ∧ first ≠ ']'

theorem skipGap_of_begins {chars : List Char} (begins : Begins chars) : skipGap chars = chars := by
  obtain ⟨first, rest, rfl, solid, _⟩ := begins
  simp [skipGap, solid]

theorem Begins.append {chars : List Char} (begins : Begins chars) (rest : List Char) :
    Begins (chars ++ rest) := by
  obtain ⟨first, others, rfl, solid, listed⟩ := begins
  exact ⟨first, others ++ rest, rfl, solid, listed⟩

/-- The text of a whole number begins with a digit or a minus sign. -/
theorem exists_cons_integer (value : Int) : ∃ first others,
    (toString value).toList = first :: others ∧ (first = '-' ∨ first.isDigit) := by
  rw [toList_toString]
  split
  · exact ⟨'-', _, rfl, .inl rfl⟩
  · have nonempty : Nat.toDigits 10 value.natAbs ≠ [] := Nat.toDigits_ne_nil
    obtain ⟨first, others, digits⟩ := List.exists_cons_of_ne_nil nonempty
    have digit : first.isDigit := Decimal.isDigit_of_mem_toDigits (digits ▸ List.mem_cons_self)
    exact ⟨first, others, digits, .inr digit⟩

theorem ne_of_begins_number {first mark : Char} (begins : first = '-' ∨ first.isDigit)
    (unsigned : mark ≠ '-') (letter : mark.isDigit = false) : first ≠ mark := by
  rintro rfl
  rcases begins with minus | digit
  · exact unsigned minus
  · exact Bool.noConfusion (letter.symm.trans digit)

theorem begins_integer (value : Int) : Begins (toString value).toList := by
  obtain ⟨first, others, text, begins⟩ := exists_cons_integer value
  have other {mark : Char} (unsigned : mark ≠ '-') (letter : mark.isDigit = false) :
      first ≠ mark := ne_of_begins_number begins unsigned letter
  refine ⟨first, others, text, ?_, other (by decide) (by decide)⟩
  simp only [isGap, Bool.or_eq_false_iff, decide_eq_false_iff_not]
  exact ⟨⟨⟨other (by decide) (by decide), other (by decide) (by decide)⟩,
    other (by decide) (by decide)⟩, other (by decide) (by decide)⟩

theorem begins_compactText {json : Json} (exact : json.isExact) : Begins json.compactText := by
  cases json with
  | null => exact ⟨'n', _, rfl, rfl, by decide⟩
  | bool value => cases value with
    | true => exact ⟨'t', _, rfl, rfl, by decide⟩
    | false => exact ⟨'f', _, rfl, rfl, by decide⟩
  | integer value => exact begins_integer value
  | string text => exact ⟨'"', _, rfl, rfl, by decide⟩
  | array items => exact ⟨'[', _, rfl, rfl, by decide⟩
  | object members => exact ⟨'{', _, rfl, rfl, by decide⟩
  | float value => cases exact
  | unreadable => cases exact

end Beginnings

section Leaves

variable {rest : List Char}

theorem endsNumber_cons {mark : Char} (closes : mark = ',' ∨ mark = ']' ∨ mark = '}') :
    EndsNumber (mark :: rest) := by
  intro c first
  cases Option.some.inj first
  rcases closes with rfl | rfl | rfl <;> decide

/-- A text that begins like a number is read as one. -/
theorem value?_number {first : Char} (begins : first = '-' ∨ first.isDigit) (fuel : Nat)
    (others : List Char) : value? (fuel + 1) (first :: others) =
      (numberText? (first :: others)).map fun (text, rest) => (text.value, rest) := by
  rw [value?]
  all_goals
    exact fun _ same =>
      ne_of_begins_number begins (by decide) (by decide) (List.cons.inj same).1

theorem value?_integer {value : Int} (word : IsWord value) (ends : EndsNumber rest) (fuel : Nat) :
    value? (fuel + 1) ((toString value).toList ++ rest) = some (.integer value, rest) := by
  obtain ⟨first, others, text, begins⟩ := exists_cons_integer value
  have read := numberText?_integer word ends
  rw [text, List.cons_append] at read ⊢
  rw [value?_number begins, ← read]

theorem value?_string (text : String) (fuel : Nat) :
    value? (fuel + 1) (quoted text ++ rest) = some (.string text, rest) := by
  obtain ⟨body, begun, read⟩ := stringBody?_quoted text rest
  rw [begun]
  change (stringBody? body).map _ = _
  rw [read]
  rfl

end Leaves

/-- The text of the value is read back as the value, whatever comes after it. -/
def ReadsBack (json : Json) : Prop :=
  ∀ (fuel : Nat) (rest : List Char), json.compactText.length ≤ fuel → EndsNumber rest →
    value? fuel (json.compactText ++ rest) = some (json, rest)

section Parts

theorem allExact_iff {items : List Json} :
    allExact items ↔ ∀ item ∈ items, item.isExact := by
  induction items with
  | nil => simp [allExact]
  | cons item items ih => simp [allExact, ih]

theorem membersExact_iff {members : List (String × Json)} :
    membersExact members ↔ ∀ member ∈ members, member.2.isExact := by
  induction members with
  | nil => simp [membersExact]
  | cons member members ih => simp [membersExact, ih]

theorem begins_itemsText {item : Json} (exact : item.isExact) (items : List Json) :
    Begins (itemsText (item :: items)) := by
  cases items with
  | nil => exact begins_compactText exact
  | cons next items => exact (begins_compactText exact).append _

theorem itemsFrom?_itemsText {item : Json} {items : List Json}
    (exact : ∀ each ∈ item :: items, each.isExact)
    (back : ∀ each ∈ item :: items, each.ReadsBack) (fuel : Nat)
    (enough : (itemsText (item :: items)).length < fuel) (rest : List Char) :
    itemsFrom? fuel (itemsText (item :: items) ++ ']' :: rest) = some (item :: items, rest) := by
  -- After a comma the reader stands before the text of the other items, with one unit less of fuel.
  induction items generalizing item fuel with
  | nil =>
      cases fuel with
      | zero => cases enough
      | succ fuel =>
          change item.compactText.length < fuel + 1 at enough
          have read := back item List.mem_cons_self fuel (']' :: rest) (by omega)
            (endsNumber_cons (by decide))
          change itemsFrom? (fuel + 1) (item.compactText ++ ']' :: rest) = _
          rw [itemsFrom?, read]
          rfl
  | cons next items ih =>
      cases fuel with
      | zero => cases enough
      | succ fuel =>
          have later := ih (fun each member => exact each (List.mem_cons_of_mem _ member))
            (fun each member => back each (List.mem_cons_of_mem _ member)) fuel
          have starts := (begins_itemsText (exact next (by simp)) items).append (']' :: rest)
          have text : itemsText (item :: next :: items) ++ ']' :: rest =
              item.compactText ++ ',' :: (itemsText (next :: items) ++ ']' :: rest) := by
            simp [itemsText]
          have size : (itemsText (item :: next :: items)).length =
              item.compactText.length + (itemsText (next :: items)).length + 1 := by
            simp [itemsText]
            omega
          have read := back item List.mem_cons_self fuel
            (',' :: (itemsText (next :: items) ++ ']' :: rest)) (by omega)
            (endsNumber_cons (by decide))
          rw [text, itemsFrom?, read]
          change (itemsFrom? fuel (skipGap _)).map _ = _
          rw [skipGap_of_begins starts, later (by omega)]
          rfl

section Members

variable {fuel : Nat} {name : String} {chars rest : List Char} {value : Json}

theorem membersFrom?_last (starts : Begins chars)
    (read : value? fuel chars = some (value, '}' :: rest)) :
    membersFrom? (fuel + 1) (quoted name ++ ':' :: chars) = some (some [(name, value)], rest) := by
  obtain ⟨body, text, named⟩ := stringBody?_quoted name (':' :: chars)
  have colon : skipGap (':' :: chars) = ':' :: chars := rfl
  rw [text, membersFrom?, named]
  dsimp only
  rw [colon]
  simp only [skipGap_of_begins starts, read]
  rfl

theorem membersFrom?_cons {members : List (String × Json)} {others : List Char}
    (starts : Begins chars) (read : value? fuel chars = some (value, ',' :: others))
    (solid : skipGap others = others)
    (later : membersFrom? fuel others = some (some members, rest)) :
    membersFrom? (fuel + 1) (quoted name ++ ':' :: chars) =
      some (some ((name, value) :: members), rest) := by
  obtain ⟨body, text, named⟩ := stringBody?_quoted name (':' :: chars)
  have colon : skipGap (':' :: chars) = ':' :: chars := rfl
  have comma : skipGap (',' :: others) = ',' :: others := rfl
  rw [text, membersFrom?, named]
  dsimp only
  rw [colon]
  simp only [skipGap_of_begins starts, read, comma, solid, later]
  rfl

/-- Members begin with the quote of the first name. -/
theorem exists_cons_membersText (member : String × Json) (members : List (String × Json)) :
    ∃ others, membersText (member :: members) = '"' :: others := by
  cases members with
  | nil => exact ⟨_, rfl⟩
  | cons next members => exact ⟨_, rfl⟩

theorem skipGap_membersText (member : String × Json) (members : List (String × Json))
    (rest : List Char) : skipGap (membersText (member :: members) ++ rest) =
      membersText (member :: members) ++ rest := by
  obtain ⟨others, text⟩ := exists_cons_membersText member members
  rw [text]
  rfl

theorem membersFrom?_membersText {member : String × Json} {members : List (String × Json)}
    (exact : ∀ each ∈ member :: members, each.2.isExact)
    (back : ∀ each ∈ member :: members, each.2.ReadsBack) (fuel : Nat)
    (enough : (membersText (member :: members)).length < fuel) (rest : List Char) :
    membersFrom? fuel (membersText (member :: members) ++ '}' :: rest) =
      some (some (member :: members), rest) := by
  induction members generalizing member fuel with
  | nil =>
      obtain ⟨name, value⟩ := member
      cases fuel with
      | zero => cases enough
      | succ fuel =>
          have starts := begins_compactText (exact _ List.mem_cons_self)
          have text : membersText [(name, value)] ++ '}' :: rest =
              quoted name ++ ':' :: (value.compactText ++ '}' :: rest) := by
            simp [membersText]
          have size : (membersText [(name, value)]).length =
              (quoted name).length + value.compactText.length + 1 := by
            simp [membersText]
            omega
          rw [text]
          exact membersFrom?_last (starts.append _)
            (back _ List.mem_cons_self fuel _ (by dsimp only; omega) (endsNumber_cons (by decide)))
  | cons next members ih =>
      obtain ⟨name, value⟩ := member
      cases fuel with
      | zero => cases enough
      | succ fuel =>
          have starts := begins_compactText (exact _ List.mem_cons_self)
          have text : membersText ((name, value) :: next :: members) ++ '}' :: rest =
              quoted name ++ ':' :: (value.compactText ++
                ',' :: (membersText (next :: members) ++ '}' :: rest)) := by
            simp [membersText]
          have size : (membersText ((name, value) :: next :: members)).length =
              (quoted name).length + value.compactText.length +
                (membersText (next :: members)).length + 2 := by
            simp [membersText]
            omega
          rw [text]
          refine membersFrom?_cons (starts.append _)
            (back _ List.mem_cons_self fuel _ (by dsimp only; omega) (endsNumber_cons (by decide)))
            (skipGap_membersText next members _) ?_
          exact ih (fun each member => exact each (List.mem_cons_of_mem _ member))
            (fun each member => back each (List.mem_cons_of_mem _ member)) fuel (by omega)

end Members

end Parts

section Values

/-- Since no text is empty, there is always enough fuel for one step. -/
theorem ReadsBack.of_succ {json : Json} (exact : json.isExact)
    (read : ∀ (fuel : Nat) (rest : List Char), json.compactText.length ≤ fuel + 1 →
      EndsNumber rest → value? (fuel + 1) (json.compactText ++ rest) = some (json, rest)) :
    json.ReadsBack := by
  intro fuel rest enough ends
  cases fuel with
  | zero =>
      obtain ⟨first, others, text, _⟩ := begins_compactText exact
      rw [text] at enough
      cases enough
  | succ fuel => exact read fuel rest enough ends

theorem readsBack_array {items : List Json} (exact : (array items).isExact)
    (back : ∀ item ∈ items, item.ReadsBack) : (array items).ReadsBack := by
  refine .of_succ exact fun fuel rest enough _ => ?_
  cases items with
  | nil => rfl
  | cons item items =>
      have each := allExact_iff.mp exact
      have size : (array (item :: items)).compactText.length =
          (itemsText (item :: items)).length + 2 := by
        simp [compactText]
      have read := itemsFrom?_itemsText each back fuel (by omega) rest
      obtain ⟨first, others, text, solid, listed⟩ :=
        (begins_itemsText (each item List.mem_cons_self) items).append (']' :: rest)
      have starts : skipGap (first :: others) = first :: others :=
        skipGap_of_begins ⟨first, others, rfl, solid, listed⟩
      change value? (fuel + 1) ('[' :: (itemsText (item :: items) ++ [']'] ++ rest)) = _
      rw [List.append_assoc, List.singleton_append, text, value?, starts]
      split
      · rename_i same
        exact absurd (List.cons.inj same).1 listed
      · rw [← text, read]
        rfl

theorem readsBack_object {members : List (String × Json)} (exact : (object members).isExact)
    (back : ∀ member ∈ members, member.2.ReadsBack) : (object members).ReadsBack := by
  refine .of_succ exact fun fuel rest enough _ => ?_
  cases members with
  | nil => rfl
  | cons member members =>
      have size : (object (member :: members)).compactText.length =
          (membersText (member :: members)).length + 2 := by
        simp [compactText]
      have read := membersFrom?_membersText (membersExact_iff.mp exact) back fuel (by omega) rest
      obtain ⟨others, text⟩ := exists_cons_membersText member members
      change value? (fuel + 1) ('{' :: (membersText (member :: members) ++ ['}'] ++ rest)) = _
      rw [List.append_assoc, List.singleton_append, value?, skipGap_membersText]
      rw [text, List.cons_append] at read ⊢
      change (membersFrom? fuel ('"' :: (others ++ '}' :: rest))).map _ = _
      rw [read]
      rfl

/-- A value that its text stands for exactly is read back, because its parts are. -/
theorem readsBack_of_isExact : ∀ {json : Json}, json.isExact → json.ReadsBack
  | .null, exact => .of_succ exact fun _ _ _ _ => rfl
  | .bool true, exact => .of_succ exact fun _ _ _ _ => rfl
  | .bool false, exact => .of_succ exact fun _ _ _ _ => rfl
  | .integer _, exact =>
      .of_succ exact fun fuel _ _ ends => value?_integer (of_decide_eq_true exact) ends fuel
  | .string text, exact => .of_succ exact fun fuel _ _ _ => value?_string text fuel
  | .array _, exact => readsBack_array exact fun item member =>
      readsBack_of_isExact (allExact_iff.mp exact item member)
  | .object _, exact => readsBack_object exact fun member listed =>
      readsBack_of_isExact (membersExact_iff.mp exact member listed)
termination_by json => json
decreasing_by
  · have smaller := List.sizeOf_lt_of_mem member
    simp only [array.sizeOf_spec]
    omega
  · have smaller := List.sizeOf_lt_of_mem listed
    obtain ⟨name, value⟩ := member
    simp only [object.sizeOf_spec, Prod.mk.sizeOf_spec] at smaller ⊢
    omega

end Values

section Forms

theorem isExact_ofNat {value : Nat} (small : value < UInt64.size) : (ofNat value).isExact := by
  rw [ofNat, isExact, decide_eq_true (isWord_ofNat small)]

theorem isExact_ofUInt64 (value : UInt64) : (ofUInt64 value).isExact :=
  isExact_ofNat value.toNat_lt

theorem isExact_ofOption {α : Type} {encode : α → Json} {value : Option α}
    (exact : ∀ inner, (encode inner).isExact) : (ofOption encode value).isExact := by
  cases value with
  | none => rfl
  | some inner => exact exact inner

theorem isExact_ofList {α : Type} {encode : α → Json} {values : List α}
    (exact : ∀ value, (encode value).isExact) : (ofList encode values).isExact :=
  allExact_iff.mpr (List.forall_mem_map.mpr fun value _ => exact value)

end Forms

/-- The compact text of such a value is JSON, and stands for it. -/
theorem parse?_compact {json : Json} (exact : json.isExact) :
    parse? json.compact = some json := by
  have read := readsBack_of_isExact exact (json.compactText.length + 1) [] (Nat.le_succ _) nofun
  unfold parse? compact
  rw [List.append_nil] at read
  simp only [String.toList_ofList, skipGap_of_begins (begins_compactText exact), read]
  rfl

end GpuSharing.Json
