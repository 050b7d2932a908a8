import Pets.Clima.WeatherViewController
import Pets.Library.FormUrlencoded

set_option autoImplicit false

namespace Pets.Clima

open Pets.FormUrlencoded

def appid : String := "5223df3c7e7a213598539c7211df9927"

def requested (text : String) : List (Bytes × Bytes) :=
  [(utf8 "appid".toList, utf8 appid.toList), (utf8 "units".toList, utf8 "metric".toList),
    (utf8 "q".toList, utf8 text.toList)]

-- The text holds no character with a meaning of its own in a query but the space,
-- and no % with two hexadecimal digits behind it.
structure Unreserved (text : String) : Prop where
  intact : Intact text.toList
  plus : '+' ∉ text.toList

def plusForSpace (char : Char) : Char := if char = ' ' then '+' else char

theorem query_list (text : List Char) : ['+'].intercalate (text.splitOn ' ') = text.map plusForSpace := by
  induction text with
  | nil => rfl
  | cons char rest ih =>
      obtain ⟨first, others, parts⟩ := List.exists_cons_of_ne_nil (List.splitOn_ne_nil ' ' rest)
      rw [parts] at ih
      rw [List.splitOn_cons_eq_if_modifyHead, List.map_cons, plusForSpace]
      by_cases space : char = ' '
      · rw [if_pos (beq_iff_eq.mpr space), if_pos space, parts, List.intercalate_cons_cons, ih]
        rfl
      · rw [if_neg (mt beq_iff_eq.mp space), if_neg space, parts, List.modifyHead_cons, ← ih]
        cases others <;> rfl

theorem query_to_list (text : String) : (query text).toList = text.toList.map plusForSpace := by
  rw [query, String.toList_ofList, query_list]

example : query "New York" = "New+York" := by decide

theorem hex_plus_for_space (char : Char) : hexValue (plusForSpace char) = hexValue char := by
  by_cases space : char = ' '
  · rw [space]
    decide
  · rw [plusForSpace, if_neg space]

theorem plus_for_space_same (char other : Char) (ordinary : other ≠ '+' ∧ other ≠ ' ') :
    plusForSpace char = other ↔ char = other := by
  by_cases space : char = ' '
  · rw [plusForSpace, if_pos space, space]
    exact ⟨fun same => absurd same.symm ordinary.1, fun same => absurd same.symm ordinary.2⟩
  · rw [plusForSpace, if_neg space]

theorem mem_plus_for_space (text : List Char) (other : Char) (ordinary : other ≠ '+' ∧ other ≠ ' ') :
    other ∈ text.map plusForSpace ↔ other ∈ text := by
  simp [List.mem_map, plus_for_space_same _ other ordinary]

theorem leading_plus_for_space (text : List Char) : leadingByte (text.map plusForSpace) = leadingByte text := by
  match text with
  | [] => rfl
  | [_] => rfl
  | [_, _] => rfl
  | mark :: high :: low :: rest =>
      have percent : plusForSpace mark = '%' ↔ mark = '%' := plus_for_space_same mark '%' (by decide)
      simp only [List.map_cons, leadingByte, percent, hex_plus_for_space]

theorem escape_plus_for_space (text : List Char) : hasEscape (text.map plusForSpace) = hasEscape text := by
  induction text with
  | nil => rfl
  | cons char rest ih =>
      have leads := leading_plus_for_space (char :: rest)
      rw [List.map_cons] at leads ⊢
      rw [hasEscape, hasEscape, leads, ih]

theorem intact_plus_for_space (text : List Char) : Intact (text.map plusForSpace) ↔ Intact text := by
  have fragment := mem_plus_for_space text '#' (by decide)
  have separator := mem_plus_for_space text '&' (by decide)
  have escape := escape_plus_for_space text
  constructor
  · intro intact
    exact ⟨mt fragment.mpr intact.fragment, mt separator.mpr intact.separator, escape.symm.trans intact.escape⟩
  · intro intact
    exact ⟨mt fragment.mp intact.fragment, mt separator.mp intact.separator, escape.trans intact.escape⟩

theorem plus_for_space_length (text : List Char) : (utf8 (text.map plusForSpace)).length = (utf8 text).length := by
  induction text with
  | nil => rfl
  | cons char rest ih =>
      simp only [utf8, List.map_cons, List.flatMap_cons, List.length_append] at ih ⊢
      rw [ih]
      by_cases space : char = ' '
      · rw [space]
        rfl
      · rw [plusForSpace, if_neg space]

theorem spaced_iff (text : List Char) : spaced (text.map plusForSpace) = utf8 text ↔ '+' ∉ text := by
  induction text with
  | nil => exact ⟨fun _ => List.not_mem_nil, fun _ => rfl⟩
  | cons char rest ih =>
      simp only [spaced, utf8, List.map_cons, List.flatMap_cons] at ih ⊢
      by_cases plus : char = '+'
      · subst plus
        refine ⟨?_, fun absent => absurd List.mem_cons_self absent⟩
        intro same
        exact absurd (List.cons.inj same).1 (by decide)
      · have head : (if plusForSpace char = '+' then [32] else String.utf8EncodeChar (plusForSpace char)) =
            String.utf8EncodeChar char := by
          by_cases space : char = ' '
          · rw [space]
            rfl
          · rw [plusForSpace, if_neg space, if_neg plus]
        rw [head, List.append_cancel_left_eq, ih, List.mem_cons, not_or]
        exact ⟨fun absent => ⟨fun same => plus same.symm, absent⟩, fun both => both.2⟩

def address : List Char := "https://api.openweathermap.org/data/2.5/weather".toList

theorem city_url_list (text : String) :
    (weatherURL ++ "&q=" ++ query text).toList =
      (weatherURL ++ "&q=").toList ++ text.toList.map plusForSpace := by
  rw [String.toList_append, query_to_list]

theorem city_url_front : (weatherURL ++ "&q=").toList = address ++ '?' ::
    (("appid".toList ++ '=' :: appid.toList) ++ '&' ::
      (("units".toList ++ '=' :: "metric".toList) ++ '&' :: ("q".toList ++ ['=']))) := by decide +kernel

def keptInUrl (char : Char) : Bool := urlCharacter char && char != '%' && char != '#'

theorem kept_in_url (text : List Char) (kept : text.all keptInUrl = true) :
    ∀ char ∈ text, urlCharacter char = true ∧ char ≠ '%' ∧ char ≠ '#' := by
  intro char member
  have checked := List.all_eq_true.mp kept char member
  simp only [keptInUrl, Bool.and_eq_true, bne_iff_ne] at checked
  exact ⟨checked.1.1, checked.1.2, checked.2⟩

theorem city_url_kept : (weatherURL ++ "&q=").toList.all keptInUrl = true := by decide +kernel

theorem city_query (text : List Char) :
    queryOf ((weatherURL ++ "&q=").toList ++ text) =
      ("appid".toList ++ '=' :: appid.toList) ++ '&' ::
        (("units".toList ++ '=' :: "metric".toList) ++ '&' ::
          ("q".toList ++ '=' :: text.takeWhile (· ≠ '#'))) := by
  have noFragment : ∀ char ∈ (weatherURL ++ "&q=").toList, decide (char ≠ '#') = true := by
    intro char member
    exact decide_eq_true (kept_in_url _ city_url_kept char member).2.2
  have noQuery : ∀ char ∈ address, decide (char ≠ '?') = true := by
    have free : address.all (fun char => decide (char ≠ '?')) = true := by decide +kernel
    exact List.all_eq_true.mp free
  rw [queryOf, List.takeWhile_append_of_pos noFragment, city_url_front]
  simp only [List.append_assoc, List.cons_append, List.nil_append]
  rw [List.dropWhile_append_of_pos noQuery, List.dropWhile_cons_of_neg (by decide)]
  rfl

theorem city_parameters (text : List Char) :
    ∃ others, parameters (queryOf ((weatherURL ++ "&q=").toList ++ text)) =
        (utf8 "appid".toList, utf8 appid.toList) :: (utf8 "units".toList, utf8 "metric".toList) ::
          (utf8 "q".toList, decode (value text)) :: others ∧ (value text = text → others = []) := by
  obtain ⟨others, read, ended⟩ := parameters_last "q".toList (text.takeWhile (· ≠ '#')) (by decide) (by decide)
  refine ⟨others, ?_, ?_⟩
  · rw [city_query, parameters_cons _ _ (by decide) (by decide), parameters_cons _ _ (by decide) (by decide), read]
    rfl
  · intro whole
    apply ended
    have shorter : text.takeWhile (· ≠ '#') = text := by
      apply List.IsPrefix.eq_of_length_le (List.takeWhile_prefix _)
      have inner := (List.takeWhile_prefix (fun char => decide (char ≠ '&')) (l := text.takeWhile (· ≠ '#'))).length_le
      rw [show (text.takeWhile (· ≠ '#')).takeWhile (· ≠ '&') = text from whole] at inner
      exact inner
    rw [shorter]
    rw [value, shorter] at whole
    exact whole

theorem city_survives_iff (foundation : Foundation)
    (escapes : ∀ string url, foundation.url string = some url → Escaped string.toList url.toList)
    (text url : String) (sent : fetchWeather foundation (query text) = some url) :
    parameters (queryOf url.toList) = requested text ↔ Unreserved text := by
  have escaped := escapes _ _ sent
  rw [city_url_list] at escaped
  obtain ⟨tail, split, rest⟩ := escaped_front _ _ _ (kept_in_url _ city_url_kept) escaped
  obtain ⟨others, read, ended⟩ := city_parameters tail
  rw [split, read]
  have arrives := escaped_arrives _ _ rest
  constructor
  · intro same
    have city : decode (value tail) = utf8 text.toList := by
      simp only [requested, List.cons.injEq, Prod.mk.injEq, true_and] at same
      exact same.1
    rcases arrives with ⟨intact, whole, decoded⟩ | ⟨_, shorter⟩
    · rw [whole, decoded] at city
      exact ⟨(intact_plus_for_space _).mp intact, (spaced_iff _).mp city⟩
    · rw [city, plus_for_space_length] at shorter
      exact absurd shorter (Nat.lt_irrefl _)
  · intro unreserved
    rcases arrives with ⟨_, whole, decoded⟩ | ⟨broken, _⟩
    · rw [ended whole, whole, decoded, (spaced_iff _).mpr unreserved.plus]
      rfl
    · exact absurd ((intact_plus_for_space _).mpr unreserved.intact) broken

-- A URL(string:) that refuses every text it would have to change.
def strict : Foundation where
  url := fun string =>
    if string.toList.all keptInUrl then some string else none
  decode := fun _ => .error "dataCorrupted"
  describe := toString
  format := fun format _ => format
  date := toString

theorem unchanged_escaped (text : List Char) (plain : ∀ char ∈ text, char ≠ '%') : Escaped text text := by
  induction text with
  | nil => exact .nil
  | cons char rest ih =>
      exact .keep char rest rest (plain char List.mem_cons_self)
        (ih fun other member => plain other (List.mem_cons_of_mem _ member))

theorem strict_escapes (string url : String) (accepted : strict.url string = some url) :
    Escaped string.toList url.toList := by
  by_cases kept : string.toList.all keptInUrl = true
  · simp only [strict, if_pos kept, Option.some.injEq] at accepted
    subst accepted
    exact unchanged_escaped _ fun char member => (kept_in_url _ kept char member).2.1
  · simp only [strict, if_neg kept] at accepted
    cases accepted

theorem strict_sends (text : String) (kept : (text.toList.map plusForSpace).all keptInUrl = true) :
    fetchWeather strict (query text) = some (weatherURL ++ "&q=" ++ query text) := by
  have whole : (weatherURL ++ "&q=" ++ query text).toList.all keptInUrl = true := by
    rw [city_url_list, List.all_append, city_url_kept, kept]
    rfl
  simp only [fetchWeather, performRequest, strict, whole, if_true]

theorem new_york_survives :
    parameters (queryOf (weatherURL ++ "&q=" ++ query "New York").toList) = requested "New York" ↔
      Unreserved "New York" :=
  city_survives_iff strict strict_escapes "New York" _ (strict_sends "New York" (by decide))

theorem ampersand_cuts_city :
    fetchWeather strict (query "Trinidad & Tobago") = some (weatherURL ++ "&q=" ++ query "Trinidad & Tobago") ∧
      parameters (queryOf (weatherURL ++ "&q=" ++ query "Trinidad & Tobago").toList) ≠ requested "Trinidad & Tobago" := by
  refine ⟨strict_sends "Trinidad & Tobago" (by decide), ?_⟩
  obtain ⟨others, read, _⟩ := city_parameters ("Trinidad & Tobago".toList.map plusForSpace)
  rw [city_url_list, read, requested]
  intro same
  simp only [List.cons.injEq, Prod.mk.injEq, true_and] at same
  exact absurd same.1 (by decide)

end Pets.Clima
