import AxolotyEmbedded.Library.JsonParse

/-!
What a reader of JSON text leaves is the end of what it was given. A text that opens an object and
has no closing brace is therefore no JSON text, wherever it was cut.
-/
namespace AxolotyEmbedded
namespace Json

variable {ν : Type} {input rest : Text}

theorem skip_suffix (input : Text) : skip input <:+ input := List.dropWhile_suffix _

theorem expect_rest {c : Char} (found : expect c input = some rest) :
    unit c ∈ input ∧ rest <:+ input := by
  rw [expect] at found
  have within := skip_suffix input
  split at found
  · next u others skipped =>
      rw [skipped] at within
      split at found
      · next same =>
          cases found
          rw [← same]
          exact ⟨within.subset List.mem_cons_self, (List.suffix_cons u _).trans within⟩
      · cases found
  · cases found

theorem keyword_rest {word : String} (found : keyword word input = some rest) : rest <:+ input := by
  rw [keyword] at found
  split at found
  · cases found
    exact (List.drop_suffix _ _).trans (skip_suffix input)
  · cases found

theorem exists_of_map {α β : Type} {f : α → β} {read : Option (α × Text)} {made : β}
    (found : read.map (fun r => (f r.1, r.2)) = some (made, rest)) : ∃ item, read = some (item, rest) := by
  obtain ⟨⟨item, after⟩, same, pair⟩ := Option.map_eq_some_iff.mp found
  cases pair
  exact ⟨item, same⟩

theorem string_rest {s : Text} (found : string input = some (s, rest)) : rest <:+ input := by
  fun_induction string input generalizing s with
  | case1 | case3 | case5 | case7 | case9 | case10 => cases found
  | case2 after =>
      cases found
      exact List.suffix_cons _ _
  | case4 a b c d after _ _ _ _ _ _ _ _ _ _ ih =>
      obtain ⟨others, read⟩ := exists_of_map found
      exact (ih read).trans (List.suffix_append [unit '\\', unit 'u', a, b, c, d] after)
  | case6 e a b c d after _ _ _ _ _ ih =>
      obtain ⟨others, read⟩ := exists_of_map found
      exact (ih read).trans (List.suffix_append [unit '\\', e] _)
  | case8 e after _ _ _ _ _ ih =>
      obtain ⟨others, read⟩ := exists_of_map found
      exact (ih read).trans (List.suffix_append [unit '\\', e] after)
  | case11 u after _ _ _ ih =>
      obtain ⟨others, read⟩ := exists_of_map found
      exact (ih read).trans (List.suffix_cons u after)

theorem fraction_rest {decimals : Text} (found : fraction input = some (decimals, rest)) :
    rest <:+ input := by
  unfold fraction at found
  split at found
  · next u after =>
      split at found
      · split at found
        · cases found
        · cases found
          exact (List.dropWhile_suffix _).trans (List.suffix_cons u after)
      · cases found
        exact List.suffix_refl _
  · cases found
    exact List.suffix_refl _

theorem exponent_rest {power : Option ℤ} (found : exponent input = some (power, rest)) :
    rest <:+ input := by
  unfold exponent at found
  split at found
  · next u after =>
      split at found
      · extract_lets negative digits at found
        have within : digits <:+ after := by
          dsimp only [digits]
          split
          · exact List.tail_suffix after
          · exact List.suffix_refl after
        split at found
        · cases found
        · cases found
          exact (List.dropWhile_suffix _).trans (within.trans (List.suffix_cons u after))
      · cases found
        exact List.suffix_refl _
  · cases found
    exact List.suffix_refl _

theorem numeral_rest {read : Numeral} (found : numeral input = some (read, rest)) : rest <:+ input := by
  unfold numeral at found
  extract_lets negative signless whole at found
  have within : signless <:+ input := by
    dsimp only [signless]
    split
    · exact List.tail_suffix input
    · exact List.suffix_refl input
  split at found
  · cases found
  · obtain ⟨⟨decimals, left⟩, first, found⟩ := Option.bind_eq_some_iff.mp found
    obtain ⟨⟨power, left'⟩, second, found⟩ := Option.bind_eq_some_iff.mp found
    have whole : left' <:+ input :=
      (exponent_rest second).trans ((fraction_rest first).trans ((List.dropWhile_suffix _).trans within))
    dsimp only at found
    split at found
    · cases found
      exact whole
    · cases found
      exact whole

/-- A value, the members of an object and the elements of an array leave the end of what they are
read from. -/
theorem value_rest (read : Numeral → ν) (fuel : Nat) :
    (∀ {input item rest}, value read fuel input = some (item, rest) → rest <:+ input) ∧
      (∀ {input items rest}, members read fuel input = some (items, rest) → rest <:+ input) ∧
        ∀ {input items rest}, elements read fuel input = some (items, rest) → rest <:+ input := by
  induction fuel with
  | zero =>
      refine ⟨?_, ?_, ?_⟩ <;> intro input item rest found <;> cases found
  | succ fuel ih =>
      obtain ⟨ofValue, ofMembers, ofElements⟩ := ih
      refine ⟨?_, ?_, ?_⟩
      · intro input item rest found
        rw [value] at found
        split at found
        · next after opened =>
            have within := (expect_rest opened).2
            split at found
            · next last closed =>
                cases found
                exact (expect_rest closed).2.trans within
            · obtain ⟨items, made⟩ := exists_of_map found
              exact (ofMembers made).trans within
        split at found
        · next after opened =>
            have within := (expect_rest opened).2
            split at found
            · next last closed =>
                cases found
                exact (expect_rest closed).2.trans within
            · obtain ⟨items, made⟩ := exists_of_map found
              exact (ofElements made).trans within
        split at found
        · next after opened =>
            obtain ⟨s, made⟩ := exists_of_map found
            exact (string_rest made).trans (expect_rest opened).2
        split at found
        · next after word =>
            cases found
            exact keyword_rest word
        split at found
        · next after word =>
            cases found
            exact keyword_rest word
        split at found
        · next after word =>
            cases found
            exact keyword_rest word
        · obtain ⟨⟨number, left⟩, made, same⟩ := Option.map_eq_some_iff.mp found
          cases same
          exact (numeral_rest made).trans (skip_suffix input)
      · intro input items rest found
        rw [members] at found
        obtain ⟨opened, quote, found⟩ := Option.bind_eq_some_iff.mp found
        obtain ⟨⟨name, named⟩, key, found⟩ := Option.bind_eq_some_iff.mp found
        obtain ⟨after, colon, found⟩ := Option.bind_eq_some_iff.mp found
        obtain ⟨⟨item, left⟩, made, found⟩ := Option.bind_eq_some_iff.mp found
        have within : left <:+ input := (ofValue made).trans ((expect_rest colon).2.trans
          ((string_rest key).trans (expect_rest quote).2))
        dsimp only at found
        split at found
        · next last closed =>
            cases found
            exact (expect_rest closed).2.trans within
        · obtain ⟨next, comma, found⟩ := Option.bind_eq_some_iff.mp found
          obtain ⟨⟨others, last⟩, more, found⟩ := Option.bind_eq_some_iff.mp found
          cases found
          exact (ofMembers more).trans ((expect_rest comma).2.trans within)
      · intro input items rest found
        rw [elements] at found
        obtain ⟨⟨item, left⟩, made, found⟩ := Option.bind_eq_some_iff.mp found
        have within := ofValue made
        dsimp only at found
        split at found
        · next last closed =>
            cases found
            exact (expect_rest closed).2.trans within
        · obtain ⟨next, comma, found⟩ := Option.bind_eq_some_iff.mp found
          obtain ⟨⟨others, last⟩, more, found⟩ := Option.bind_eq_some_iff.mp found
          cases found
          exact (ofElements more).trans ((expect_rest comma).2.trans within)

/-- The members of an object end with its closing brace. -/
theorem closed_of_members {read : Numeral → ν} {fuel : Nat} {items : List (Text × Json ν)}
    (found : members read fuel input = some (items, rest)) : unit '}' ∈ input := by
  induction fuel generalizing input items rest with
  | zero => cases found
  | succ fuel ih =>
      rw [members] at found
      obtain ⟨opened, quote, found⟩ := Option.bind_eq_some_iff.mp found
      obtain ⟨⟨name, named⟩, key, found⟩ := Option.bind_eq_some_iff.mp found
      obtain ⟨after, colon, found⟩ := Option.bind_eq_some_iff.mp found
      obtain ⟨⟨item, left⟩, made, found⟩ := Option.bind_eq_some_iff.mp found
      have within : left <:+ input := ((value_rest read fuel).1 made).trans
        ((expect_rest colon).2.trans ((string_rest key).trans (expect_rest quote).2))
      dsimp only at found
      split at found
      · next last closed => exact within.subset (expect_rest closed).1
      · obtain ⟨next, comma, found⟩ := Option.bind_eq_some_iff.mp found
        obtain ⟨⟨others, last⟩, more, found⟩ := Option.bind_eq_some_iff.mp found
        exact within.subset ((expect_rest comma).2.subset (ih more))

/-- An object that is not closed is no JSON text. -/
theorem parse_open {read : Numeral → ν} {u : UInt16} (brace : u = unit '{')
    (unclosed : unit '}' ∉ u :: rest) : parse read (u :: rest) = none := by
  subst brace
  rw [parse, value, expect_cons (by decide)]
  dsimp only
  cases closed : expect '}' rest with
  | some after => exact absurd (List.mem_cons_of_mem _ (expect_rest closed).1) unclosed
  | none =>
      cases made : members read (unit '{' :: rest).length rest with
      | none => rfl
      | some found => exact absurd (List.mem_cons_of_mem _ (closed_of_members made)) unclosed

end Json
end AxolotyEmbedded
