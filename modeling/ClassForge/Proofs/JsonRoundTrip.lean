import ClassForge.Json.Parser
import ClassForge.Proofs.NumberTexts

/-!
Reading JSON undoes writing it: escapes are read as the characters they stand for, and a value as
the value that was laid out, whatever follows.
-/
namespace ClassForge.Json
open Number

theorem fourDigits?_control {n : Nat} (control : n < 32) :
    fourDigits? '0' '0' (digitChar (n / 16)) (digitChar (n % 16)) = some n := by
  have all : ∀ n < 32,
      fourDigits? '0' '0' (digitChar (n / 16)) (digitChar (n % 16)) = some n := by decide
  exact all n control

theorem escaped?_plain {e c : Char} (known : plainEscape? e = some c) (cs : List Char) :
    escaped? ([e] ++ cs) = some (c, cs) := by
  have notNumber : e ≠ 'u' := by
    intro number
    rw [number] at known
    cases known
  rw [List.singleton_append, escaped?]
  · rw [known]
    rfl
  · intro _ _ _ _ _ number
    exact absurd number notNumber

theorem escaped?_control {c : Char} (control : c.toNat < 32) (cs : List Char) :
    escaped? (['u', '0', '0', digitChar (c.toNat / 16), digitChar (c.toNat % 16)] ++ cs) =
      some (c, cs) := by
  have scalar : single? c.toNat = some c := by
    rw [single?, if_neg (by simp; omega), Char.ofNat_toNat]
  simp [escaped?, fourDigits?_control control, scalar]

theorem escape_cases (c : Char) :
    (escape c = [c] ∧ c ≠ '"' ∧ c ≠ '\\' ∧ 32 ≤ c.toNat) ∨
      ∃ more, escape c = '\\' :: more ∧ ∀ cs, escaped? (more ++ cs) = some (c, cs) := by
  have plain : ∀ e, plainEscape? e = some c → escape c = ['\\', e] →
      ∃ more, escape c = '\\' :: more ∧ ∀ cs, escaped? (more ++ cs) = some (c, cs) :=
    fun e known shown => ⟨[e], shown, escaped?_plain known⟩
  by_cases quote : c = '"'
  · exact .inr (plain '"' (by subst quote; rfl) (by subst quote; rfl))
  by_cases backslash : c = '\\'
  · exact .inr (plain '\\' (by subst backslash; rfl) (by subst backslash; rfl))
  by_cases backspace : c = '\x08'
  · exact .inr (plain 'b' (by subst backspace; rfl) (by subst backspace; rfl))
  by_cases formFeed : c = '\x0c'
  · exact .inr (plain 'f' (by subst formFeed; rfl) (by subst formFeed; rfl))
  by_cases lineFeed : c = '\n'
  · exact .inr (plain 'n' (by subst lineFeed; rfl) (by subst lineFeed; rfl))
  by_cases carriageReturn : c = '\r'
  · exact .inr (plain 'r' (by subst carriageReturn; rfl) (by subst carriageReturn; rfl))
  by_cases tab : c = '\t'
  · exact .inr (plain 't' (by subst tab; rfl) (by subst tab; rfl))
  rw [escape, if_neg quote, if_neg backslash, if_neg backspace, if_neg formFeed, if_neg lineFeed,
    if_neg carriageReturn, if_neg tab]
  by_cases control : c.toNat < 32
  · rw [if_pos control]
    exact .inr ⟨_, rfl, escaped?_control control⟩
  · rw [if_neg control]
    exact .inl ⟨rfl, quote, backslash, by omega⟩

theorem textBody_escape (c : Char) (cs : List Char) :
    textBody (escape c ++ cs) = (textBody cs).map fun (ds, rest) => (c :: ds, rest) := by
  rcases escape_cases c with ⟨itself, notQuote, notBackslash, printable⟩ | ⟨more, shown, read⟩
  · rw [itself, List.singleton_append, textBody, if_neg notQuote, if_neg notBackslash,
      if_neg (by omega)]
  · rw [shown, List.cons_append, textBody, if_neg (by decide), if_pos rfl]
    split
    · rename_i found
      rw [read] at found
      cases found
      rfl
    · rename_i missing
      rw [read] at missing
      cases missing

theorem textBody_escaped (cs rest : List Char) :
    textBody (cs.flatMap escape ++ '"' :: rest) = some (cs, rest) := by
  induction cs with
  | nil =>
    rw [List.flatMap_nil, List.nil_append, textBody, if_pos rfl]
  | cons c cs ih =>
    rw [List.flatMap_cons, List.append_assoc, textBody_escape, ih]
    rfl

theorem skipSpace_newLine (depth : Nat) (cs : List Char) :
    skipSpace (newLine depth ++ cs) = skipSpace cs := by
  have blank : ∀ c ∈ newLine depth, isSpace c = true := by
    intro c member
    rcases List.mem_cons.mp member with first | later
    · rw [first]
      rfl
    · rw [List.eq_of_mem_replicate later]
      rfl
  exact List.dropWhile_append_of_pos blank

theorem skipSpace_mark {c : Char} (mark : isSpace c = false) (cs : List Char) :
    skipSpace (c :: cs) = c :: cs := by
  rw [skipSpace, List.dropWhile_cons_of_neg (by simp [mark])]

/-- What a value begins with is neither space nor a closing mark. -/
theorem layOut_begins (depth : Nat) (v : Value) :
    ∃ c more, layOut depth v = c :: more ∧ isSpace c = false ∧ c ≠ ']' := by
  rcases v with s | (_ | ⟨v, vs⟩) | (_ | ⟨⟨key, v⟩, ms⟩)
  · exact ⟨_, _, by rw [layOut, quoted]; rfl, rfl, by decide⟩
  · exact ⟨_, _, by rw [layOut], rfl, by decide⟩
  · exact ⟨_, _, by rw [layOut]; rfl, rfl, by decide⟩
  · exact ⟨_, _, by rw [layOut], rfl, by decide⟩
  · exact ⟨_, _, by rw [layOut]; rfl, rfl, by decide⟩

def layOutMember (depth : Nat) (m : String × Value) : List Char :=
  quoted m.1 ++ ':' :: ' ' :: layOut depth m.2

theorem skipSpace_first {first : List Char} {closing : Char}
    (begins : ∃ c more, first = c :: more ∧ isSpace c = false ∧ c ≠ closing) (depth : Nat)
    (rest : List Char) :
    skipSpace (newLine depth ++ (first ++ rest)) = first ++ rest ∧
      ∀ more, first ++ rest ≠ closing :: more := by
  obtain ⟨c, more, begins, mark, notClosing⟩ := begins
  rw [skipSpace_newLine, begins, List.cons_append, skipSpace_mark mark]
  refine ⟨rfl, fun _ same => notClosing (List.cons.inj same).1⟩

theorem layOutMember_begins (depth : Nat) (m : String × Value) :
    ∃ c more, layOutMember depth m = c :: more ∧ isSpace c = false ∧ c ≠ '\x7d' :=
  ⟨_, _, by rw [layOutMember, quoted]; rfl, rfl, by decide⟩

/-- With so much fuel, what is no longer is read. -/
structure ReadsBack (fuel : Nat) : Prop where
  value : ∀ depth v rest, (layOut depth v).length ≤ fuel →
    readValue fuel (layOut depth v ++ rest) = some (v, rest)
  items : ∀ depth vs outer rest, (layOutItems depth vs).length < fuel →
    readItems fuel (layOutItems depth vs ++ (newLine outer ++ ']' :: rest)) = some (vs, rest)
  member : ∀ depth m rest, (layOutMember depth m).length ≤ fuel →
    readMember fuel (layOutMember depth m ++ rest) = some (m, rest)
  members : ∀ depth ms outer rest, (layOutMembers depth ms).length < fuel →
    readMembers fuel (layOutMembers depth ms ++ (newLine outer ++ '\x7d' :: rest)) = some (ms, rest)

section
variable {cs cs' : List Char} (same : skipSpace cs = skipSpace cs') (fuel : Nat)
include same

theorem readValue_skip : readValue fuel cs = readValue fuel cs' := by
  cases fuel with
  | zero => rw [readValue, readValue]
  | succ fuel => rw [readValue, readValue, same]

theorem readMember_skip : readMember fuel cs = readMember fuel cs' := by
  cases fuel with
  | zero => rw [readMember, readMember]
  | succ fuel => rw [readMember, readMember, same]

end

theorem readValue_newLine (fuel depth : Nat) (cs : List Char) :
    readValue fuel (newLine depth ++ cs) = readValue fuel cs :=
  readValue_skip (skipSpace_newLine depth cs) fuel

theorem readMember_newLine (fuel depth : Nat) (cs : List Char) :
    readMember fuel (newLine depth ++ cs) = readMember fuel cs :=
  readMember_skip (skipSpace_newLine depth cs) fuel

theorem readValue_blank (fuel : Nat) (cs : List Char) :
    readValue fuel (' ' :: cs) = readValue fuel cs := by
  apply readValue_skip
  rw [skipSpace, List.dropWhile_cons_of_pos rfl]
  rfl

theorem quoted_append (s : String) (rest : List Char) :
    quoted s ++ rest = '"' :: (s.toList.flatMap escape ++ '"' :: rest) := by
  simp [quoted]

section
variable {fuel : Nat} (shorter : ReadsBack fuel)
include shorter

theorem readItems_succ (depth : Nat) (vs : List Value) (outer : Nat) (rest : List Char)
    (enough : (layOutItems depth vs).length < fuel + 1) :
    readItems (fuel + 1) (layOutItems depth vs ++ (newLine outer ++ ']' :: rest)) =
      some (vs, rest) := by
  cases vs with
  | nil =>
    rw [layOutItems, List.nil_append, readItems, skipSpace_newLine, skipSpace_mark rfl]
    rfl
  | cons v vs =>
    simp only [layOutItems, List.length_cons, List.length_append] at enough
    have first := shorter.value depth v
      (layOutItems depth vs ++ (newLine outer ++ ']' :: rest)) (by omega)
    have others := shorter.items depth vs outer rest (by omega)
    simp only [layOutItems, List.cons_append, List.append_assoc]
    rw [readItems, skipSpace_mark rfl]
    simp only [readValue_newLine, first, others, bind, Option.bind, pure]

theorem readMember_succ (depth : Nat) (m : String × Value) (rest : List Char)
    (enough : (layOutMember depth m).length ≤ fuel + 1) :
    readMember (fuel + 1) (layOutMember depth m ++ rest) = some (m, rest) := by
  obtain ⟨key, v⟩ := m
  simp only [layOutMember, quoted, List.length_cons, List.length_append] at enough
  have value := shorter.value depth v rest (by omega)
  have shown : layOutMember depth (key, v) ++ rest = '"' :: (key.toList.flatMap escape ++
      '"' :: (':' :: ' ' :: (layOut depth v ++ rest))) := by
    simp [layOutMember, quoted]
  rw [shown, readMember, skipSpace_mark rfl]
  simp only [textBody_escaped, bind, Option.bind]
  rw [skipSpace_mark rfl]
  simp only [readValue_blank, value, pure, String.ofList_toList]

theorem readMembers_succ (depth : Nat) (ms : List (String × Value)) (outer : Nat)
    (rest : List Char) (enough : (layOutMembers depth ms).length < fuel + 1) :
    readMembers (fuel + 1) (layOutMembers depth ms ++ (newLine outer ++ '\x7d' :: rest)) =
      some (ms, rest) := by
  cases ms with
  | nil =>
    rw [layOutMembers, List.nil_append, readMembers, skipSpace_newLine, skipSpace_mark rfl]
    rfl
  | cons m ms =>
    obtain ⟨key, v⟩ := m
    have shown : layOutMembers depth ((key, v) :: ms) =
        ',' :: (newLine depth ++ (layOutMember depth (key, v) ++ layOutMembers depth ms)) := by
      simp [layOutMembers, layOutMember]
    rw [shown] at enough ⊢
    simp only [List.length_cons, List.length_append] at enough
    have first := shorter.member depth (key, v)
      (layOutMembers depth ms ++ (newLine outer ++ '\x7d' :: rest)) (by omega)
    have others := shorter.members depth ms outer rest (by omega)
    simp only [List.cons_append, List.append_assoc]
    rw [readMembers, skipSpace_mark rfl]
    simp only [readMember_newLine, first, others, bind, Option.bind, pure]

theorem readValue_succ (depth : Nat) (v : Value) (rest : List Char)
    (enough : (layOut depth v).length ≤ fuel + 1) :
    readValue (fuel + 1) (layOut depth v ++ rest) = some (v, rest) := by
  rcases v with s | (_ | ⟨v, vs⟩) | (_ | ⟨m, ms⟩)
  · rw [layOut, quoted_append, readValue, skipSpace_mark rfl]
    simp only [textBody_escaped, Option.map_some, String.ofList_toList]
  · rw [layOut, readValue, List.cons_append, skipSpace_mark rfl]
    rfl
  -- With `notClosed` at hand, the closing mark is ruled out, and the first part is read.
  · simp only [layOut, List.length_cons, List.length_append, List.length_nil] at enough
    have first := shorter.value (depth + 1) v
      (layOutItems (depth + 1) vs ++ (newLine depth ++ ']' :: rest)) (by omega)
    have others := shorter.items (depth + 1) vs depth rest (by omega)
    obtain ⟨begun, notClosed⟩ := skipSpace_first (layOut_begins (depth + 1) v) (depth + 1)
      (layOutItems (depth + 1) vs ++ (newLine depth ++ ']' :: rest))
    simp only [layOut, List.cons_append, List.append_assoc, List.nil_append]
    rw [readValue, skipSpace_mark rfl]
    simp only [begun, first, others, bind, Option.bind, pure]
  · rw [layOut, readValue, List.cons_append, skipSpace_mark rfl]
    rfl
  · obtain ⟨key, v⟩ := m
    have shown : layOut depth (.object ((key, v) :: ms)) = '\x7b' :: (newLine (depth + 1) ++
        (layOutMember (depth + 1) (key, v) ++ (layOutMembers (depth + 1) ms ++
          (newLine depth ++ ['\x7d'])))) := by
      simp [layOut, layOutMember]
    rw [shown] at enough ⊢
    simp only [List.length_cons, List.length_append, List.length_nil] at enough
    have first := shorter.member (depth + 1) (key, v)
      (layOutMembers (depth + 1) ms ++ (newLine depth ++ '\x7d' :: rest)) (by omega)
    have others := shorter.members (depth + 1) ms depth rest (by omega)
    obtain ⟨begun, notClosed⟩ := skipSpace_first (layOutMember_begins (depth + 1) (key, v))
      (depth + 1) (layOutMembers (depth + 1) ms ++ (newLine depth ++ '\x7d' :: rest))
    simp only [List.cons_append, List.append_assoc, List.nil_append]
    rw [readValue, skipSpace_mark rfl]
    simp only [begun, first, others, bind, Option.bind, pure]

end

/-- More fuel than characters is enough. -/
theorem readsBack (fuel : Nat) : ReadsBack fuel := by
  induction fuel with
  | zero =>
    constructor
    · intro depth v rest enough
      obtain ⟨c, more, begins, -⟩ := layOut_begins depth v
      simp [begins] at enough
    · intro depth vs outer rest enough
      exact absurd enough (Nat.not_lt_zero _)
    · intro depth m rest enough
      simp [layOutMember, quoted] at enough
    · intro depth ms outer rest enough
      exact absurd enough (Nat.not_lt_zero _)
  | succ fuel ih =>
    exact ⟨readValue_succ ih, readItems_succ ih, readMember_succ ih, readMembers_succ ih⟩

theorem parse_render (v : Value) : parse (render v) = some v := by
  have read := (readsBack ((layOut 0 v).length + 1)).value 0 v [] (by omega)
  rw [List.append_nil] at read
  rw [parse, render, String.toList_ofList]
  simp only [read, bind, Option.bind]
  rfl

end ClassForge.Json
