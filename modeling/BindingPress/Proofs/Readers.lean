import BindingPress.Wire.Record
import Mathlib.Logic.Basic

/-!
Readers of encoded pieces. Each takes a part off the front of the bytes, and what comes after that
part has no influence on it; numbers of up to sixty-four bits are read back as they were written.
-/

namespace BindingPress.Wire

variable {α β : Type}

/-- The reader takes off a part of the bytes, and reads it so whatever comes next. -/
def Takes (read : Bytes → Option (α × Bytes)) : Prop :=
  ∀ bytes value rest, read bytes = some (value, rest) →
    ∃ front, bytes = front ++ rest ∧ ∀ more, read (front ++ more) = some (value, more)

namespace Takes

variable {read : Bytes → Option (α × Bytes)}

theorem append (takes : Takes read) {bytes rest : Bytes} {value : α}
    (found : read bytes = some (value, rest)) (more : Bytes) :
    read (bytes ++ more) = some (value, rest ++ more) := by
  obtain ⟨front, rfl, whatever⟩ := takes bytes value rest found
  rw [List.append_assoc]
  exact whatever (rest ++ more)

theorem shorter (takes : Takes read) (nothing : read [] = none) {bytes rest : Bytes} {value : α}
    (found : read bytes = some (value, rest)) : rest.length < bytes.length := by
  obtain ⟨front, rfl, whatever⟩ := takes bytes value rest found
  cases front with
  | nil =>
      have empty := whatever []
      simp [nothing] at empty
  | cons byte front =>
      rw [List.length_append, List.length_cons]
      omega

theorem pure (value : α) : Takes fun bytes => some (value, bytes) := by
  intro bytes other rest found
  obtain ⟨rfl, rfl⟩ := Prod.mk.inj (Option.some.inj found)
  exact ⟨[], rfl, fun _ => rfl⟩

theorem none : Takes fun _ => (Option.none : Option (α × Bytes)) := by
  intro bytes value rest found
  simp at found

theorem bind (takes : Takes read) {next : α → Bytes → Option (β × Bytes)}
    (nextTakes : ∀ value, Takes (next value)) :
    Takes fun bytes => (read bytes).bind fun (value, rest) => next value rest := by
  intro bytes result rest found
  obtain ⟨⟨value, middle⟩, first, second⟩ := Option.bind_eq_some_iff.mp found
  obtain ⟨front, rfl, whatever⟩ := takes bytes value middle first
  obtain ⟨inner, rfl, whateverInner⟩ := nextTakes value middle result rest second
  refine ⟨front ++ inner, by rw [List.append_assoc], fun more => ?_⟩
  simp only [List.append_assoc, whatever, Option.bind_some]
  exact whateverInner more

theorem map (takes : Takes read) (change : α → β) :
    Takes fun bytes => (read bytes).map fun (value, rest) => (change value, rest) := by
  intro bytes result rest found
  obtain ⟨⟨value, middle⟩, first, same⟩ := Option.map_eq_some_iff.mp found
  obtain ⟨rfl, rfl⟩ := Prod.mk.inj same
  obtain ⟨front, rfl, whatever⟩ := takes bytes value middle first
  exact ⟨front, rfl, fun more => by simp only [whatever, Option.map_some]⟩

end Takes

def varintBound : (limit : Nat) → Nat
  | 0 => 0
  | 1 => 2
  | limit + 2 => 128 * varintBound (limit + 1)

theorem varintBound_pos (limit : Nat) : 2 ≤ varintBound (limit + 1) := by
  induction limit with
  | zero => simp [varintBound]
  | succ limit ih =>
      rw [varintBound]
      omega

theorem lt_varintBound_succ {value : Nat} (large : 128 ≤ value) (limit : Nat) :
    value < varintBound (limit + 1) ↔ value / 128 < varintBound limit := by
  cases limit with
  | zero =>
      simp only [varintBound]
      omega
  | succ limit =>
      rw [varintBound]
      omega

theorem varintWithin_varint (limit value : Nat) (rest : Bytes) :
    varintWithin limit (varint value ++ rest) =
      if value < varintBound limit then some (value, rest) else none := by
  induction limit generalizing value with
  | zero => simp [varintWithin, varintBound]
  | succ limit ih =>
      rw [varint]
      by_cases small : value < 128
      · have byte : (UInt8.ofNat value).toNat = value := by
          rw [UInt8.toNat_ofNat']
          omega
        have fits : value < varintBound (limit + 1) ↔ ¬(limit = 0 ∧ 1 < value) := by
          cases limit with
          | zero =>
              simp only [varintBound, true_and]
              omega
          | succ limit =>
              have room := varintBound_pos limit
              rw [varintBound]
              omega
        simp only [if_pos small, List.cons_append, List.nil_append, varintWithin, byte, fits,
          Bool.and_eq_true, decide_eq_true_eq, ite_not]
      · have byte : (UInt8.ofNat (value % 128 + 128)).toNat = value % 128 + 128 := by
          rw [UInt8.toNat_ofNat']
          omega
        have continued : ¬value % 128 + 128 < 128 := by omega
        have whole : value % 128 + 128 - 128 + 128 * (value / 128) = value := by omega
        have fits := lt_varintBound_succ (by omega : 128 ≤ value) limit
        simp only [if_neg small, List.cons_append, varintWithin, byte, if_neg continued, ih, fits]
        split
        · rw [Option.map_some, whole]
        · rfl

theorem varintWithin_lt {limit value : Nat} {bytes rest : Bytes}
    (found : varintWithin limit bytes = some (value, rest)) : value < varintBound limit := by
  induction limit generalizing value bytes rest with
  | zero => simp [varintWithin] at found
  | succ limit ih =>
      cases bytes with
      | nil => simp [varintWithin] at found
      | cons byte bytes =>
          rw [varintWithin] at found
          split at found
          next last =>
            split at found
            · simp at found
            next room =>
              obtain ⟨rfl, _⟩ := Prod.mk.inj (Option.some.inj found)
              cases limit with
              | zero =>
                  simp only [decide_true, Bool.true_and, decide_eq_true_eq] at room
                  simp only [varintBound]
                  omega
              | succ limit =>
                  have atLeast := varintBound_pos limit
                  rw [varintBound]
                  omega
          next continued =>
            obtain ⟨⟨high, remaining⟩, read, same⟩ := Option.map_eq_some_iff.mp found
            obtain ⟨rfl, _⟩ := Prod.mk.inj same
            have bound := ih read
            have byteBound := byte.toNat_lt
            cases limit with
            | zero => simp [varintBound] at bound
            | succ limit =>
                rw [varintBound]
                omega

theorem varintWithin_takes (limit : Nat) : Takes (varintWithin limit) := by
  induction limit with
  | zero => exact Takes.none
  | succ limit ih =>
      intro bytes value rest found
      cases bytes with
      | nil => simp [varintWithin] at found
      | cons byte bytes =>
          rw [varintWithin] at found
          split at found
          next last =>
            split at found
            · simp at found
            next room =>
              obtain ⟨rfl, rfl⟩ := Prod.mk.inj (Option.some.inj found)
              refine ⟨[byte], rfl, fun more => ?_⟩
              rw [List.singleton_append, varintWithin, if_pos last, if_neg room]
          next continued =>
            obtain ⟨front, rfl, whatever⟩ :=
              (ih.map fun high => byte.toNat - 128 + 128 * high) bytes value rest found
            refine ⟨byte :: front, rfl, fun more => ?_⟩
            rw [List.cons_append, varintWithin, if_neg continued]
            exact whatever more

theorem varint?_takes : Takes varint? :=
  varintWithin_takes varintLimit

def sizeLimit : Nat := 18446744073709551616

theorem varint?_varint (value : Nat) (rest : Bytes) :
    varint? (varint value ++ rest) = if value < sizeLimit then some (value, rest) else none :=
  varintWithin_varint varintLimit value rest

theorem varint?_lt {value : Nat} {bytes rest : Bytes}
    (found : varint? bytes = some (value, rest)) : value < sizeLimit :=
  varintWithin_lt found

theorem take?_takes (count : Nat) : Takes (take? count) := by
  intro bytes value rest found
  rw [take?_eq] at found
  split at found
  next enough =>
    obtain ⟨rfl, rfl⟩ := Prod.mk.inj (Option.some.inj found)
    refine ⟨bytes.take count, (List.take_append_drop count bytes).symm, fun more => ?_⟩
    have size : (bytes.take count).length = count := by
      rw [List.length_take, Nat.min_eq_left enough]
    rw [take?_eq, if_pos (by rw [List.length_append]; omega), List.take_left' size,
      List.drop_left' size]
  next => simp at found

theorem sized?_takes : Takes sized? :=
  varint?_takes.bind take?_takes

theorem sized?_append (content rest : Bytes) :
    sized? (varint content.length ++ (content ++ rest)) =
      if content.length < sizeLimit then some (content, rest) else none := by
  have taken : take? content.length (content ++ rest) = some (content, rest) := by
    simp [take?_eq]
  simp only [sized?, varint?_varint]
  split
  · exact taken
  · rfl

theorem sized?_length {bytes content rest : Bytes} (found : sized? bytes = some (content, rest)) :
    content.length < sizeLimit := by
  obtain ⟨⟨size, middle⟩, read, taken⟩ := Option.bind_eq_some_iff.mp found
  have bound := varint?_lt read
  simp only [take?_eq] at taken
  split at taken
  next enough =>
    obtain ⟨rfl, _⟩ := Prod.mk.inj (Option.some.inj taken)
    rw [List.length_take]
    omega
  next => simp at taken

theorem key?_takes : Takes key? := by
  have checked : ∀ value, Takes fun rest => (Form.ofNumber? (value % 8)).bind fun form =>
      if keyLimit ≤ value || value / 8 = 0 then none else some (Key.mk (value / 8) form, rest) := by
    intro value
    cases Form.ofNumber? (value % 8) with
    | none => exact Takes.none
    | some form =>
        by_cases refused : (decide (keyLimit ≤ value) || decide (value / 8 = 0)) = true
        · simp only [Option.bind_some, if_pos refused]
          exact Takes.none
        · simp only [Option.bind_some, if_neg refused]
          exact Takes.pure (Key.mk (value / 8) form)
  exact varint?_takes.bind checked

theorem content?_takes (form : Form) : Takes (content? form) := by
  cases form with
  | varint => exact varint?_takes.map _
  | fixed64 => exact (take?_takes 8).map fun value => Content.fixed64 (littleEndian value)
  | chunk => exact sized?_takes.map _
  | fixed32 => exact (take?_takes 4).map fun value => Content.fixed32 (littleEndian value)
  | opening | closing => exact Takes.none

theorem token?_takes (key : Key) : Takes (token? key) := by
  obtain ⟨number, form⟩ := key
  cases form with
  | opening => exact Takes.pure (Token.opening number)
  | closing => exact Takes.pure (Token.closing number)
  | varint | fixed64 | chunk | fixed32 => exact (content?_takes _).map (Token.record number)

theorem nextToken?_takes : Takes nextToken? :=
  key?_takes.bind token?_takes

end BindingPress.Wire
