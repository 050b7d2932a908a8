import Mathlib.Data.List.TakeWhile

set_option autoImplicit false

namespace Pets.FormUrlencoded

abbrev Bytes := List UInt8

def utf8 (text : List Char) : Bytes := text.flatMap String.utf8EncodeChar

def hexDigits : List Char := "0123456789ABCDEF".toList

def hexValue (digit : Char) : Option ℕ :=
  if '0' ≤ digit ∧ digit ≤ '9' then some (digit.toNat - '0'.toNat)
  else if 'A' ≤ digit ∧ digit ≤ 'F' then some (digit.toNat - 'A'.toNat + 10)
  else if 'a' ≤ digit ∧ digit ≤ 'f' then some (digit.toNat - 'a'.toNat + 10)
  else none

def leadingByte : List Char → Option UInt8
  | mark :: high :: low :: _ =>
      if mark = '%' then
        match hexValue high, hexValue low with
        | some high, some low => some (UInt8.ofNat (16 * high + low))
        | _, _ => none
      else none
  | _ => none

-- The text of a name or a value. skip counts the digits of a %XX still to be
-- passed over.
def decodeFrom : ℕ → List Char → Bytes
  | _, [] => []
  | skip + 1, _ :: rest => decodeFrom skip rest
  | 0, char :: rest =>
      match leadingByte (char :: rest) with
      | some byte => byte :: decodeFrom 2 rest
      | none => (if char = '+' then [32] else String.utf8EncodeChar char) ++ decodeFrom 0 rest

def decode (text : List Char) : Bytes := decodeFrom 0 text

def pair (part : List Char) : Bytes × Bytes :=
  (decode (part.takeWhile (· ≠ '=')), decode ((part.dropWhile (· ≠ '=')).drop 1))

def parameters (query : List Char) : List (Bytes × Bytes) :=
  ((query.splitOn '&').filter (fun part => !part.isEmpty)).map pair

def queryOf (url : List Char) : List Char := ((url.takeWhile (· ≠ '#')).dropWhile (· ≠ '?')).drop 1

def percentEncode (byte : UInt8) : List Char :=
  ['%', hexDigits.getD (byte.toNat / 16) '0', hexDigits.getD (byte.toNat % 16) '0']

def urlCharacter (char : Char) : Bool := char.isAlphanum || "-._~:/?#@!$&'()*+,;=%".toList.contains char

-- What may be sent for a text: the text itself, with each character a URL may not
-- hold, and each % that no two hexadecimal digits follow, percent-encoded. Nothing
-- is asked of the fragment.
inductive Escaped : List Char → List Char → Prop where
  | nil : Escaped [] []
  | fragment (rest sent : List Char) : Escaped ('#' :: rest) ('#' :: sent)
  | byte (high low : Char) (rest sent : List Char) (value : UInt8)
      (leads : leadingByte ('%' :: high :: low :: rest) = some value) (tail : Escaped rest sent) :
      Escaped ('%' :: high :: low :: rest) ('%' :: high :: low :: sent)
  | percent (rest sent : List Char) (stray : leadingByte ('%' :: rest) = none) (tail : Escaped rest sent) :
      Escaped ('%' :: rest) (percentEncode 37 ++ sent)
  | keep (char : Char) (rest sent : List Char) (plain : char ≠ '%') (tail : Escaped rest sent) :
      Escaped (char :: rest) (char :: sent)
  | encode (char : Char) (rest sent : List Char) (forbidden : urlCharacter char = false) (tail : Escaped rest sent) :
      Escaped (char :: rest) ((String.utf8EncodeChar char).flatMap percentEncode ++ sent)

-- What is left of a value when the query is split: it ends at & and at #.
def value (text : List Char) : List Char := (text.takeWhile (· ≠ '#')).takeWhile (· ≠ '&')

def hasEscape : List Char → Bool
  | [] => false
  | char :: rest => (leadingByte (char :: rest)).isSome || hasEscape rest

structure Intact (text : List Char) : Prop where
  fragment : '#' ∉ text
  separator : '&' ∉ text
  escape : hasEscape text = false

def spaced (text : List Char) : Bytes :=
  text.flatMap fun char => if char = '+' then [32] else String.utf8EncodeChar char

theorem hex_value_digit (digit : ℕ) (bound : digit < 16) : hexValue (hexDigits.getD digit '0') = some digit := by
  have all : ∀ digit : Fin 16, hexValue (hexDigits.getD digit.val '0') = some digit.val := by decide
  exact all ⟨digit, bound⟩

theorem hex_digit_plain (digit : Char) (number : ℕ) (read : hexValue digit = some number) :
    digit ≠ '#' ∧ digit ≠ '&' := by
  refine ⟨?_, ?_⟩
  · intro same
    have unread : hexValue '#' = none := by decide
    cases unread.symm.trans (same ▸ read)
  · intro same
    have unread : hexValue '&' = none := by decide
    cases unread.symm.trans (same ▸ read)

theorem leading_encoded (byte : UInt8) (rest : List Char) : leadingByte (percentEncode byte ++ rest) = some byte := by
  have bound := UInt8.toNat_lt byte
  have high := hex_value_digit (byte.toNat / 16) (by omega)
  have low := hex_value_digit (byte.toNat % 16) (by omega)
  have whole : 16 * (byte.toNat / 16) + byte.toNat % 16 = byte.toNat := Nat.div_add_mod _ _
  simp only [percentEncode, List.cons_append, List.nil_append, leadingByte, if_pos, high, low, whole,
    UInt8.ofNat_toNat]

theorem leading_plain (char : Char) (rest : List Char) (plain : char ≠ '%') : leadingByte (char :: rest) = none := by
  match rest with
  | [] => rfl
  | [_] => rfl
  | high :: low :: after => exact if_neg plain

theorem leading_digits (high low : Char) (rest : List Char) (byte : UInt8)
    (leads : leadingByte ('%' :: high :: low :: rest) = some byte) :
    (∃ number, hexValue high = some number) ∧ ∃ number, hexValue low = some number := by
  rw [leadingByte, if_pos rfl] at leads
  cases highRead : hexValue high with
  | none => rw [highRead] at leads; cases leads
  | some highNumber =>
      cases lowRead : hexValue low with
      | none => rw [highRead, lowRead] at leads; cases leads
      | some lowNumber => exact ⟨⟨highNumber, rfl⟩, ⟨lowNumber, rfl⟩⟩

theorem leading_local (high low : Char) (rest other : List Char) :
    leadingByte ('%' :: high :: low :: rest) = leadingByte ('%' :: high :: low :: other) := rfl

theorem decode_byte (high low : Char) (rest : List Char) (byte : UInt8)
    (leads : leadingByte ('%' :: high :: low :: rest) = some byte) :
    decode ('%' :: high :: low :: rest) = byte :: decode rest := by
  rw [decode, decodeFrom, leads]
  rfl

theorem decode_encoded (byte : UInt8) (rest : List Char) :
    decode (percentEncode byte ++ rest) = byte :: decode rest :=
  decode_byte _ _ rest byte (leading_encoded byte rest)

theorem decode_all_encoded (bytes : Bytes) (rest : List Char) :
    decode (bytes.flatMap percentEncode ++ rest) = bytes ++ decode rest := by
  induction bytes with
  | nil => rfl
  | cons byte tail ih =>
      rw [List.flatMap_cons, List.append_assoc, decode_encoded, ih]
      rfl

theorem decode_plain (char : Char) (rest : List Char) (plain : char ≠ '%') :
    decode (char :: rest) = (if char = '+' then [32] else String.utf8EncodeChar char) ++ decode rest := by
  rw [decode, decodeFrom, leading_plain char rest plain]
  rfl

theorem value_cons (char : Char) (rest : List Char) (inside : char ≠ '#' ∧ char ≠ '&') :
    value (char :: rest) = char :: value rest := by
  rw [value, List.takeWhile_cons_of_pos (by simpa using inside.1), List.takeWhile_cons_of_pos (by simpa using inside.2)]
  rfl

theorem value_stops (char : Char) (rest : List Char) (stop : char = '#' ∨ char = '&') : value (char :: rest) = [] := by
  rcases stop with rfl | rfl
  · rfl
  · rw [value, List.takeWhile_cons_of_pos (by decide), List.takeWhile_cons_of_neg (by decide)]

theorem value_encoded (byte : UInt8) (rest : List Char) :
    value (percentEncode byte ++ rest) = percentEncode byte ++ value rest := by
  have digits := leading_digits _ _ rest byte (leading_encoded byte rest)
  obtain ⟨⟨high, highRead⟩, ⟨low, lowRead⟩⟩ := digits
  simp only [percentEncode, List.cons_append, List.nil_append]
  rw [value_cons _ _ (by decide), value_cons _ _ (hex_digit_plain _ high highRead),
    value_cons _ _ (hex_digit_plain _ low lowRead)]

theorem value_all_encoded (bytes : Bytes) (rest : List Char) :
    value (bytes.flatMap percentEncode ++ rest) = bytes.flatMap percentEncode ++ value rest := by
  induction bytes with
  | nil => rfl
  | cons byte tail ih => rw [List.flatMap_cons, List.append_assoc, value_encoded, ih, List.append_assoc]

theorem spaced_length (text : List Char) : (spaced text).length = (utf8 text).length := by
  induction text with
  | nil => rfl
  | cons char rest ih =>
      simp only [spaced, utf8, List.flatMap_cons, List.length_append] at ih ⊢
      by_cases plus : char = '+'
      · rw [if_pos plus, plus, ih]
        rfl
      · rw [if_neg plus, ih]

theorem intact_cons (char : Char) (rest : List Char) (inside : char ≠ '#' ∧ char ≠ '&')
    (leads : leadingByte (char :: rest) = none) : Intact (char :: rest) ↔ Intact rest := by
  have escape : hasEscape (char :: rest) = hasEscape rest := by
    rw [hasEscape, leads]
    rfl
  constructor
  · intro ⟨fragment, separator, whole⟩
    exact ⟨fun inRest => fragment (List.mem_cons_of_mem _ inRest),
      fun inRest => separator (List.mem_cons_of_mem _ inRest), escape.symm.trans whole⟩
  · intro ⟨fragment, separator, whole⟩
    refine ⟨?_, ?_, escape.trans whole⟩
    · intro member
      rcases List.mem_cons.mp member with same | inRest
      · exact inside.1 same.symm
      · exact fragment inRest
    · intro member
      rcases List.mem_cons.mp member with same | inRest
      · exact inside.2 same.symm
      · exact separator inRest

theorem char_length_pos (char : Char) : 0 < (String.utf8EncodeChar char).length :=
  List.length_pos_iff.mpr String.utf8EncodeChar_ne_nil

def Arrives (text sent : List Char) : Prop :=
  (Intact text ∧ value sent = sent ∧ decode sent = spaced text) ∨
    (¬ Intact text ∧ (decode (value sent)).length < (utf8 text).length)

theorem arrives_bounded (text sent : List Char) (arrives : Arrives text sent) :
    (decode (value sent)).length ≤ (utf8 text).length := by
  rcases arrives with ⟨_, whole, decoded⟩ | ⟨_, shorter⟩
  · rw [whole, decoded]
    exact Nat.le_of_eq (spaced_length text)
  · exact Nat.le_of_lt shorter

theorem arrives_cons (char : Char) (rest sent head : List Char) (inside : char ≠ '#' ∧ char ≠ '&')
    (leads : leadingByte (char :: rest) = none) (valued : value (head ++ sent) = head ++ value sent)
    (decoded : ∀ tail, decode (head ++ tail) =
      (if char = '+' then [32] else String.utf8EncodeChar char) ++ decode tail)
    (arrives : Arrives rest sent) : Arrives (char :: rest) (head ++ sent) := by
  have size : (if char = '+' then [32] else String.utf8EncodeChar char).length =
      (String.utf8EncodeChar char).length := by
    by_cases plus : char = '+'
    · rw [if_pos plus, plus]
      rfl
    · rw [if_neg plus]
  rcases arrives with ⟨intact, whole, all⟩ | ⟨broken, shorter⟩
  · refine Or.inl ⟨(intact_cons char rest inside leads).mpr intact, by rw [valued, whole], ?_⟩
    rw [decoded, all]
    rfl
  · refine Or.inr ⟨mt (intact_cons char rest inside leads).mp broken, ?_⟩
    rw [valued, decoded, List.length_append, size]
    simp only [utf8, List.flatMap_cons, List.length_append] at shorter ⊢
    omega

theorem forbidden_plain (char : Char) (forbidden : urlCharacter char = false) :
    char ≠ '#' ∧ char ≠ '&' ∧ char ≠ '%' ∧ char ≠ '+' := by
  refine ⟨?_, ?_, ?_, ?_⟩ <;>
    · intro same
      rw [same] at forbidden
      exact absurd forbidden (by decide)

theorem stopped_arrives (char : Char) (rest sent : List Char) (stop : char = '#' ∨ char = '&') :
    Arrives (char :: rest) (char :: sent) := by
  refine Or.inr ⟨?_, ?_⟩
  · intro ⟨fragment, separator, _⟩
    rcases stop with rfl | rfl
    · exact fragment List.mem_cons_self
    · exact separator List.mem_cons_self
  · have positive := char_length_pos char
    rw [value_stops char sent stop]
    simp only [utf8, List.flatMap_cons, List.length_append]
    exact Nat.lt_of_lt_of_le positive (Nat.le_add_right _ _)

theorem escaped_arrives (text sent : List Char) (escaped : Escaped text sent) : Arrives text sent := by
  induction escaped with
  | nil => exact Or.inl ⟨⟨List.not_mem_nil, List.not_mem_nil, rfl⟩, rfl, rfl⟩
  | fragment rest sent => exact stopped_arrives '#' rest sent (Or.inl rfl)
  | byte high low rest sent byte leads _ ih =>
      obtain ⟨⟨highNumber, highRead⟩, ⟨lowNumber, lowRead⟩⟩ := leading_digits high low rest byte leads
      have valued : value ('%' :: high :: low :: sent) = '%' :: high :: low :: value sent := by
        rw [value_cons _ _ (by decide), value_cons _ _ (hex_digit_plain high highNumber highRead),
          value_cons _ _ (hex_digit_plain low lowNumber lowRead)]
      refine Or.inr ⟨?_, ?_⟩
      · intro intact
        have escape := intact.escape
        rw [hasEscape, leads] at escape
        cases escape
      · have bound := arrives_bounded rest sent ih
        have mark := char_length_pos '%'
        have first := char_length_pos high
        have second := char_length_pos low
        rw [valued, decode_byte high low (value sent) byte ((leading_local high low _ rest).trans leads)]
        simp only [utf8, List.flatMap_cons, List.length_append, List.length_cons] at bound ⊢
        omega
  | percent rest sent stray _ ih =>
      exact arrives_cons '%' rest sent _ (by decide) stray (value_encoded 37 sent) (decode_encoded 37) ih
  | keep char rest sent plain _ ih =>
      by_cases stop : char = '#' ∨ char = '&'
      · exact stopped_arrives char rest sent stop
      · have inside := not_or.mp stop
        exact arrives_cons char rest sent [char] inside (leading_plain char rest plain)
          (value_cons char sent inside) (fun tail => decode_plain char tail plain) ih
  | encode char rest sent forbidden _ ih =>
      obtain ⟨noFragment, noSeparator, noMark, noPlus⟩ := forbidden_plain char forbidden
      apply arrives_cons char rest sent _ ⟨noFragment, noSeparator⟩ (leading_plain char rest noMark)
        (value_all_encoded _ sent) _ ih
      intro tail
      rw [decode_all_encoded, if_neg noPlus]

theorem escaped_cons (char : Char) (rest sent : List Char) (character : urlCharacter char = true) (noMark : char ≠ '%')
    (noFragment : char ≠ '#') (escaped : Escaped (char :: rest) sent) :
    ∃ tail, sent = char :: tail ∧ Escaped rest tail := by
  cases escaped with
  | fragment => exact absurd rfl noFragment
  | byte => exact absurd rfl noMark
  | percent => exact absurd rfl noMark
  | keep _ _ tail _ remaining => exact ⟨tail, rfl, remaining⟩
  | encode _ _ _ forbidden => exact absurd (character.symm.trans forbidden) (by decide)

theorem escaped_front (front rest sent : List Char)
    (held : ∀ char ∈ front, urlCharacter char = true ∧ char ≠ '%' ∧ char ≠ '#') (escaped : Escaped (front ++ rest) sent) :
    ∃ tail, sent = front ++ tail ∧ Escaped rest tail := by
  induction front generalizing sent with
  | nil => exact ⟨sent, rfl, escaped⟩
  | cons char front ih =>
      obtain ⟨character, noMark, noFragment⟩ := held char List.mem_cons_self
      obtain ⟨sent, rfl, tail⟩ := escaped_cons char (front ++ rest) sent character noMark noFragment escaped
      obtain ⟨later, rfl, remaining⟩ := ih sent (fun other member => held other (List.mem_cons_of_mem _ member)) tail
      exact ⟨later, rfl, remaining⟩

theorem pair_named (name text : List Char) (plain : '=' ∉ name) :
    pair (name ++ '=' :: text) = (decode name, decode text) := by
  have passed : ∀ char ∈ name, decide (char ≠ '=') = true := by
    intro char member
    exact decide_eq_true fun same => plain (same ▸ member)
  rw [pair, List.takeWhile_append_of_pos passed, List.dropWhile_append_of_pos passed,
    List.takeWhile_cons_of_neg (by decide), List.dropWhile_cons_of_neg (by decide), List.append_nil]
  rfl

theorem parameters_cons (part rest : List Char) (whole : '&' ∉ part) (nonempty : part ≠ []) :
    parameters (part ++ '&' :: rest) = pair part :: parameters rest := by
  rw [parameters, List.splitOn_append_cons_self_of_not_mem whole,
    List.filter_cons_of_pos (by simpa using nonempty)]
  rfl

theorem parameters_last (name text : List Char) (plain : '=' ∉ name) (whole : '&' ∉ name) :
    ∃ others, parameters (name ++ '=' :: text) = (decode name, decode (text.takeWhile (· ≠ '&'))) :: others ∧
      (text.takeWhile (· ≠ '&') = text → others = []) := by
  have inValue : ∀ char ∈ text.takeWhile (· ≠ '&'), char ≠ '&' := by
    intro char member
    have passed := List.mem_takeWhile_imp member
    exact of_decide_eq_true passed
  have unsplit : '&' ∉ name ++ '=' :: text.takeWhile (· ≠ '&') := by
    intro member
    rcases List.mem_append.mp member with inName | inRest
    · exact whole inName
    · rcases List.mem_cons.mp inRest with same | inText
      · exact absurd same (by decide)
      · exact inValue '&' inText rfl
  have nonempty : name ++ '=' :: text.takeWhile (· ≠ '&') ≠ [] := List.append_ne_nil_of_right_ne_nil _ (List.cons_ne_nil _ _)
  cases after : text.dropWhile (· ≠ '&') with
  | nil =>
      have ended : text.takeWhile (· ≠ '&') = text := by
        have both := List.takeWhile_append_dropWhile (p := fun char => decide (char ≠ '&')) (l := text)
        rw [after, List.append_nil] at both
        exact both
      rw [ended] at unsplit nonempty
      refine ⟨[], ?_, fun _ => rfl⟩
      rw [ended, parameters, List.splitOn_eq_singleton unsplit, List.filter_cons_of_pos (by simp)]
      simp [pair_named name text plain]
  | cons stop rest =>
      have both := List.takeWhile_append_dropWhile (p := fun char => decide (char ≠ '&')) (l := text)
      rw [after] at both
      have stopped : stop = '&' := by
        have head := List.head_dropWhile_not (fun char => decide (char ≠ '&')) (l := text) (by rw [after]; exact List.cons_ne_nil _ _)
        simp only [after, List.head_cons] at head
        simpa using head
      rw [stopped] at both
      refine ⟨parameters rest, ?_, ?_⟩
      · have regrouped : name ++ '=' :: text = (name ++ '=' :: text.takeWhile (· ≠ '&')) ++ '&' :: rest := by
          rw [List.append_assoc, List.cons_append, both]
        rw [regrouped, parameters_cons _ rest unsplit nonempty, pair_named name _ plain]
      · intro ended
        rw [ended] at both
        exact absurd (List.append_right_eq_self.mp both) (List.cons_ne_nil _ _)

end Pets.FormUrlencoded
