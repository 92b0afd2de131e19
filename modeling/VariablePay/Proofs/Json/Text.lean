import VariablePay.Json.Parser
import VariablePay.Proofs.Decimal.Text
import VariablePay.Proofs.Json.Quoted

set_option autoImplicit false

/-!
# JSON trees read back from their texts

The compact text of a tree is read as that tree, if every string in it ends where its closing quote
stands.
-/

namespace VariablePay.Json

/-- Trees whose strings all end where their closing quotes stand. -/
inductive Legible : Json → Prop where
  | null : Legible .null
  | bool (value : Bool) : Legible (.bool value)
  | number (numeral : Numeral) : Legible (.number numeral)
  | string {written : List Char} : Quoted.Legible written → Legible (.string written)
  | array {items : List Json} : (∀ item ∈ items, Legible item) → Legible (.array items)
  | object {members : List (List Char × Json)} :
      (∀ member ∈ members, Quoted.Legible member.1) →
      (∀ member ∈ members, Legible member.2) → Legible (.object members)

/-- Whether the text of a tree is read as the tree wherever no numeral goes on, in steps that the
length of the text bounds. -/
def ReadsBack (tree : Json) : Prop :=
  ∀ steps rest, Numeral.Ends rest → 2 * tree.text.length ≤ steps →
    readValue? steps (tree.text ++ rest) = some (tree, rest)

/-- The first character of a tree's text is neither blank nor a closing bracket. -/
theorem exists_head (tree : Json) :
    ∃ first after, tree.text = first :: after ∧ isBlank first = false ∧ first ≠ ']' := by
  cases tree with
  | null => exact ⟨_, _, rfl, by decide, by decide⟩
  | bool value => cases value <;> exact ⟨_, _, rfl, by decide, by decide⟩
  | number numeral =>
      have marks : ∀ first ∈ Numeral.starts, isBlank first = false ∧ first ≠ ']' := by
        simp [Numeral.starts, isBlank]
      obtain ⟨first, after, text_eq, mark⟩ := Numeral.exists_head numeral
      exact ⟨first, after, text_eq, marks first mark⟩
  | string written => exact ⟨_, _, rfl, by decide, by decide⟩
  | array items => exact ⟨_, _, rfl, by decide, by decide⟩
  | object members => exact ⟨_, _, rfl, by decide, by decide⟩

theorem skipBlanks_cons {first : Char} (plain : isBlank first = false) (rest : List Char) :
    skipBlanks (first :: rest) = first :: rest :=
  List.dropWhile_cons_of_neg (by simp [plain])

theorem skipBlanks_text (tree : Json) (rest : List Char) :
    skipBlanks (tree.text ++ rest) = tree.text ++ rest := by
  obtain ⟨first, after, text_eq, plain, _⟩ := exists_head tree
  rw [text_eq, List.cons_append, skipBlanks_cons plain]

/-- No text is empty, so a reading that its length bounds has a step to make. -/
private theorem readsBack_of_step {tree : Json}
    (reads : ∀ steps rest, Numeral.Ends rest → 2 * tree.text.length ≤ steps + 1 →
      readValue? (steps + 1) (tree.text ++ rest) = some (tree, rest)) : ReadsBack tree := by
  intro steps rest ends enough
  cases steps with
  | zero =>
      obtain ⟨first, after, text_eq, _⟩ := exists_head tree
      simp [text_eq] at enough
  | succ steps => exact reads steps rest ends enough

private theorem readsBack_number (numeral : Numeral) : ReadsBack (.number numeral) := by
  refine readsBack_of_step fun steps rest ends _ => ?_
  have read := Numeral.read?_text numeral ends
  obtain ⟨first, after, text_eq, mark⟩ := Numeral.exists_head numeral
  have number : readNumber? (numeral.text ++ rest) = some (.number numeral, rest) := by
    rw [readNumber?, read]
    rfl
  have other {start : Char} {more : List Char}
      (same : text (.number numeral) ++ rest = start :: more) : start ∈ Numeral.starts := by
    change numeral.text ++ rest = _ at same
    rw [text_eq, List.cons_append] at same
    rwa [← (List.cons.inj same).1]
  unfold readValue?
  rw [skipBlanks_text]
  split
  case h_7 => exact number
  -- Every other branch is for a character that starts no numeral.
  all_goals
    rename_i same
    exact absurd (other same) (by decide)

private theorem readsBack_string {written : List Char} (legible : Quoted.Legible written) :
    ReadsBack (.string written) := by
  refine readsBack_of_step fun steps rest _ _ => ?_
  have shape : text (.string written) ++ rest = '"' :: (written ++ '"' :: rest) := by
    change quoted written ++ rest = _
    simp [quoted]
  rw [shape]
  change Option.map _ (Quoted.read? (written ++ '"' :: rest)) = _
  rw [legible rest]
  rfl

private theorem readsBack_null : ReadsBack .null :=
  readsBack_of_step fun _ _ _ _ => rfl

private theorem readsBack_bool (value : Bool) : ReadsBack (.bool value) := by
  refine readsBack_of_step fun steps rest _ _ => ?_
  cases value <;> rfl

private theorem ends_mark {mark : Char} (known : mark = ',' ∨ mark = ']' ∨ mark = '}')
    (rest : List Char) : Numeral.Ends (mark :: rest) := by
  intro char first
  have same : mark = char := Option.some.inj first
  subst same
  obtain rfl | rfl | rfl := known <;> decide

private theorem readItems?_text {items : List Json} (nonempty : items ≠ [])
    (each : ∀ item ∈ items, ReadsBack item) (steps : Nat) (rest : List Char)
    (enough : 2 * (itemsText items).length + 1 ≤ steps) :
    readItems? steps (itemsText items ++ ']' :: rest) = some (items, rest) := by
  induction items generalizing steps with
  | nil => exact absurd rfl nonempty
  | cons item items ih =>
      obtain ⟨steps, rfl⟩ := Nat.exists_eq_add_of_le' (show 1 ≤ steps by omega)
      have back := each item (.head _)
      cases items with
      | nil =>
          change 2 * item.text.length + 1 ≤ steps + 1 at enough
          change readItems? (steps + 1) (item.text ++ ']' :: rest) = _
          unfold readItems?
          rw [back steps _ (ends_mark (by simp) _) (by omega)]
          rfl
      | cons next items =>
          have more := ih (by simp) (fun other included => each other (.tail _ included)) steps
          rw [itemsText, List.length_append, List.length_cons] at enough
          rw [itemsText, List.append_assoc, List.cons_append]
          unfold readItems?
          rw [back steps _ (ends_mark (by simp) _) (by omega)]
          change Option.map _ (readItems? steps _) = _
          rw [more (by omega)]
          rfl

private theorem isBlank_quote : isBlank '"' = false := by decide

private theorem isBlank_colon : isBlank ':' = false := by decide

private theorem readMembers?_text {members : List (List Char × Json)} (nonempty : members ≠ [])
    (names : ∀ member ∈ members, Quoted.Legible member.1)
    (values : ∀ member ∈ members, ReadsBack member.2) (steps : Nat) (rest : List Char)
    (enough : 2 * (membersText members).length + 1 ≤ steps) :
    readMembers? steps (membersText members ++ '}' :: rest) = some (members, rest) := by
  induction members generalizing steps with
  | nil => exact absurd rfl nonempty
  | cons member members ih =>
      obtain ⟨steps, rfl⟩ := Nat.exists_eq_add_of_le' (show 1 ≤ steps by omega)
      obtain ⟨written, value⟩ := member
      have name : Quoted.Legible written := names (written, value) (.head _)
      have back : ReadsBack value := values (written, value) (.head _)
      have shape (after : List Char) : memberText (written, value) ++ after =
          '"' :: (written ++ '"' :: ':' :: (value.text ++ after)) := by
        simp [memberText, quoted]
      have size : (memberText (written, value)).length =
          written.length + value.text.length + 3 := by
        simp [memberText, quoted]
        omega
      cases members with
      | nil =>
          change 2 * (memberText (written, value)).length + 1 ≤ steps + 1 at enough
          change readMembers? (steps + 1) (memberText (written, value) ++ '}' :: rest) = _
          rw [shape]
          unfold readMembers?
          simp only [skipBlanks_cons, isBlank_quote, isBlank_colon, name _]
          rw [back steps _ (ends_mark (by simp) _) (by omega)]
          rfl
      | cons next members =>
          have more := ih (by simp) (fun other included => names other (.tail _ included))
            (fun other included => values other (.tail _ included)) steps
          rw [membersText, List.length_append, List.length_cons] at enough
          rw [membersText, List.append_assoc, List.cons_append, shape]
          unfold readMembers?
          simp only [skipBlanks_cons, isBlank_quote, isBlank_colon, name _]
          rw [back steps _ (ends_mark (by simp) _) (by omega)]
          change Option.map _ (readMembers? steps _) = _
          rw [more (by omega)]
          rfl

private theorem itemsText_head (item : Json) (items : List Json) :
    ∃ first after, itemsText (item :: items) = first :: after ∧ isBlank first = false ∧
      first ≠ ']' := by
  obtain ⟨first, after, text_eq, head⟩ := exists_head item
  cases items with
  | nil => exact ⟨first, after, text_eq, head⟩
  | cons next items =>
      rw [itemsText, text_eq]
      exact ⟨first, _, rfl, head⟩

private theorem readsBack_array {items : List Json} (each : ∀ item ∈ items, ReadsBack item) :
    ReadsBack (.array items) := by
  refine readsBack_of_step fun steps rest _ enough => ?_
  have text_eq : text (.array items) = '[' :: itemsText items ++ [']'] := rfl
  have size : (text (.array items)).length = (itemsText items).length + 2 := by
    simp [text_eq]
  have shape : text (.array items) ++ rest = '[' :: (itemsText items ++ ']' :: rest) := by
    simp [text_eq]
  rw [shape]
  cases items with
  | nil => rfl
  | cons item items =>
      have back := readItems?_text (by simp) each steps rest (by omega)
      obtain ⟨first, after, text_eq, plain, more⟩ := itemsText_head item items
      rw [text_eq, List.cons_append] at back ⊢
      unfold readValue?
      rw [skipBlanks_cons (by decide)]
      simp only
      rw [skipBlanks_cons plain]
      split
      · rename_i same
        exact absurd (List.cons.inj same).1 more
      · rw [back]
        rfl

private theorem membersText_head (member : List Char × Json) (members : List (List Char × Json)) :
    ∃ after, membersText (member :: members) = '"' :: after := by
  obtain ⟨written, value⟩ := member
  cases members with
  | nil => exact ⟨_, rfl⟩
  | cons next members => exact ⟨_, rfl⟩

private theorem readsBack_object {members : List (List Char × Json)}
    (names : ∀ member ∈ members, Quoted.Legible member.1)
    (values : ∀ member ∈ members, ReadsBack member.2) : ReadsBack (.object members) := by
  refine readsBack_of_step fun steps rest _ enough => ?_
  have text_eq : text (.object members) = '{' :: membersText members ++ ['}'] := rfl
  have size : (text (.object members)).length = (membersText members).length + 2 := by
    simp [text_eq]
  have shape : text (.object members) ++ rest = '{' :: (membersText members ++ '}' :: rest) := by
    simp [text_eq]
  rw [shape]
  cases members with
  | nil => rfl
  | cons member members =>
      have back := readMembers?_text (by simp) names values steps rest (by omega)
      obtain ⟨after, text_eq⟩ := membersText_head member members
      rw [text_eq, List.cons_append] at back ⊢
      change Option.map _ (readMembers? steps _) = _
      rw [back]
      rfl

/-- The text of a legible tree is read as the tree. -/
theorem Legible.readsBack {tree : Json} (legible : Legible tree) : ReadsBack tree := by
  induction legible with
  | null => exact readsBack_null
  | bool value => exact readsBack_bool value
  | number numeral => exact readsBack_number numeral
  | string written => exact readsBack_string written
  | array _ each => exact readsBack_array each
  | object names _ values => exact readsBack_object names values

/-- A legible tree is the only thing that its compact text says. -/
theorem Legible.parse?_compact {tree : Json} (legible : Legible tree) :
    parse? tree.compact = some tree := by
  have ends : Numeral.Ends [] := fun _ none => nomatch none
  have back := legible.readsBack (2 * tree.text.length + 2) [] ends (by omega)
  rw [List.append_nil] at back
  unfold parse? compact ofChars?
  rw [String.toList_ofList, back]
  rfl

end VariablePay.Json
