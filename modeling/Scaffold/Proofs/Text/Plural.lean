import Mathlib.Data.List.Basic
import Scaffold.Inflector

/-! The plural of a name in snake case is made on its last word. An underscore has no case and lets
no look at the neighbouring letters through, so the words on its two sides have their small forms
independently of each other; it is a letter of no noun and of no ending, so what a rule matches at
the end of a name lies behind the last underscore; and it begins a part like the beginning of a
name. -/

namespace Scaffold.Text

/-! ## Small forms -/

namespace Casing
open Letters

theorem meetsCased_cons (c : Char) (cs : List Char) :
    meetsCased (c :: cs) = if isCaseIgnorable c then meetsCased cs else isCased c := by
  by_cases skipped : isCaseIgnorable c
  · simp [meetsCased, skipped]
  · simp [meetsCased, skipped]

theorem meetsCased_append_underscore (cs rest : List Char) :
    meetsCased (cs ++ '_' :: rest) = meetsCased cs := by
  induction cs with
  | nil => rw [List.nil_append, meetsCased_cons, if_neg (by decide)]; rfl
  | cons c cs ih => rw [List.cons_append, meetsCased_cons, meetsCased_cons, ih]

theorem smallTextAfter_congr {before other : List Char} (cs : List Char)
    (same : meetsCased before = meetsCased other) :
    smallTextAfter before cs = smallTextAfter other cs := by
  induction cs generalizing before other with
  | nil => rfl
  | cons c cs ih =>
    have next : meetsCased (c :: before) = meetsCased (c :: other) := by
      rw [meetsCased_cons, meetsCased_cons, same]
    rw [smallTextAfter, smallTextAfter, same, ih next]

theorem smallTextAfter_append_underscore (before cs rest : List Char) :
    smallTextAfter before (cs ++ '_' :: rest) =
      smallTextAfter before cs ++ '_' :: smallText rest := by
  induction cs generalizing before with
  | nil =>
    have fresh : meetsCased ('_' :: before) = meetsCased [] :=
      meetsCased_append_underscore [] before
    change small '_' ++ smallTextAfter ('_' :: before) rest = '_' :: smallText rest
    rw [smallTextAfter_congr rest fresh]
    rfl
  | cons c cs ih =>
    rw [List.cons_append, smallTextAfter, smallTextAfter, meetsCased_append_underscore, ih,
      List.append_assoc]

theorem smallText_append_underscore (cs rest : List Char) :
    smallText (cs ++ '_' :: rest) = smallText cs ++ '_' :: smallText rest :=
  smallTextAfter_append_underscore [] cs rest

theorem small_ne_nil (c : Char) : small c ≠ [] := by
  unfold small
  split
  · simp
  · split
    · simp
    · split <;> simp

theorem smallText_ne_nil {cs : List Char} (filled : cs ≠ []) : smallText cs ≠ [] := by
  cases cs with
  | nil => exact absurd rfl filled
  | cons c cs =>
    rw [smallText, smallTextAfter]
    split
    · simp
    · simp [small_ne_nil]

end Casing

namespace Plural
open Letters

/-! ## Cuts -/

theorem byteSize_append (cs rest : List Char) :
    byteSize (cs ++ rest) = byteSize cs + byteSize rest := by
  induction cs with
  | nil => simp [byteSize]
  | cons c cs ih => rw [List.cons_append, byteSize, byteSize, ih, Nat.add_assoc]

theorem cutAfter?_append (front cs rest : List Char) (place : Nat) :
    cutAfter? front (byteSize cs + place) (cs ++ rest) =
      cutAfter? (cs.reverse ++ front) place rest := by
  induction cs generalizing front with
  | nil => simp [byteSize]
  | cons c cs ih =>
    have size := c.utf8Size_pos
    obtain ⟨n, total⟩ : ∃ n, c.utf8Size + byteSize cs + place = n + 1 :=
      ⟨c.utf8Size + byteSize cs + place - 1, by omega⟩
    have left : n + 1 - c.utf8Size = byteSize cs + place := by omega
    rw [byteSize, total, List.cons_append, cutAfter?, if_pos (by omega), left, ih]
    simp

theorem cutAfter?_append_front (front before : List Char) (place : Nat) (cs : List Char) :
    cutAfter? (front ++ before) place cs =
      (cutAfter? front place cs).map fun cut => (cut.1 ++ before, cut.2) := by
  fun_induction cutAfter? front place cs with
  | case1 front cs => simp [cutAfter?]
  | case2 front place => simp [cutAfter?]
  | case3 front place c rest fits ih => rw [cutAfter?, if_pos fits, ← ih, List.cons_append]
  | case4 front place c rest large => rw [cutAfter?, if_neg large]; rfl

theorem cutAfter?_eq_some {front cs head tail : List Char} {place : Nat}
    (found : cutAfter? front place cs = some (head, tail)) :
    head.reverse ++ tail = front.reverse ++ cs ∧ byteSize tail + place = byteSize cs := by
  fun_induction cutAfter? front place cs with
  | case1 front cs =>
    obtain ⟨rfl, rfl⟩ := Prod.mk.inj (Option.some.inj found)
    exact ⟨rfl, rfl⟩
  | case2 => cases found
  | case3 front place c rest fits ih =>
    obtain ⟨whole, size⟩ := ih found
    refine ⟨by simpa using whole, ?_⟩
    rw [byteSize]
    omega
  | case4 => cases found

/-! ## Nouns -/

/-- A noun that lies within one part of a name: no letter of it is an underscore. -/
structure WithinPart (noun : List Char) : Prop where
  filled : noun ≠ []
  clear : '_' ∉ noun.map Char.toLower

theorem not_sameLetters_of_underscore {noun tail : List Char} (within : WithinPart noun)
    (member : '_' ∈ tail) : sameLetters tail noun = false := by
  refine Bool.eq_false_iff.2 fun same => within.clear ?_
  rw [← eq_of_beq same]
  exact List.mem_map.2 ⟨'_', member, by decide⟩

theorem startsPart_append {tail : List Char} (filled : tail ≠ []) (front before : List Char) :
    startsPart (front ++ '_' :: before).head? tail.head? = startsPart front.head? tail.head? := by
  cases front with
  | cons c front => rfl
  | nil =>
    cases tail with
    | nil => exact absurd rfl filled
    | cons d tail => rfl

theorem underscore_mem_of_longer {front tail p w : List Char}
    (whole : front ++ tail = p ++ '_' :: w) (longer : byteSize w < byteSize tail) : '_' ∈ tail := by
  rcases List.append_eq_append_iff.1 whole with ⟨between, -, rfl⟩ | ⟨between, -, rest⟩
  · simp
  · cases between with
    | nil =>
      rw [List.nil_append] at rest
      exact rest ▸ List.mem_cons_self
    | cons c between =>
      obtain ⟨-, inside⟩ := List.cons.inj rest
      rw [inside, List.append_eq, byteSize_append] at longer
      omega

theorem endingWith?_append_of_fits {noun : List Char} (within : WithinPart noun) (p : List Char)
    {w : List Char} (fits : byteSize noun ≤ byteSize w) :
    endingWith? noun (p ++ '_' :: w) =
      (endingWith? noun w).map fun parts => (p ++ '_' :: parts.1, parts.2) := by
  have split : p ++ '_' :: w = (p ++ ['_']) ++ w := by simp
  have total : byteSize (p ++ '_' :: w) = byteSize (p ++ ['_']) + byteSize w := by
    rw [split, byteSize_append]
  have place : byteSize (p ++ '_' :: w) - byteSize noun =
      byteSize (p ++ ['_']) + (byteSize w - byteSize noun) := by omega
  rw [endingWith?, endingWith?, if_pos fits, if_pos (by omega), place, split, cutAfter?_append,
    List.append_nil, ← List.nil_append (p ++ ['_']).reverse, cutAfter?_append_front]
  cases cutAfter? [] (byteSize w - byteSize noun) w with
  | none => rfl
  | some cut =>
    obtain ⟨front, tail⟩ := cut
    by_cases same : sameLetters tail noun
    · have filled : tail ≠ [] := by
        rintro rfl
        exact within.filled (List.map_eq_nil_iff.1 (eq_of_beq same).symm)
      have starts := startsPart_append filled front p.reverse
      simp only [Option.map_some, List.reverse_append, List.reverse_singleton,
        List.singleton_append, starts, same, Bool.true_and]
      split <;> simp
    · simp [same]

theorem endingWith?_append_of_longer {noun : List Char} (within : WithinPart noun) (p : List Char)
    {w : List Char} (longer : byteSize w < byteSize noun) :
    endingWith? noun (p ++ '_' :: w) = none := by
  unfold endingWith?
  split
  · split
    next front tail found =>
      obtain ⟨whole, size⟩ := cutAfter?_eq_some found
      have member : '_' ∈ tail := underscore_mem_of_longer whole (by omega)
      rw [not_sameLetters_of_underscore within member, Bool.false_and]
      rfl
    · rfl
  · rfl

theorem endingWith?_append {noun : List Char} (within : WithinPart noun) (p w : List Char) :
    endingWith? noun (p ++ '_' :: w) =
      (endingWith? noun w).map fun parts => (p ++ '_' :: parts.1, parts.2) := by
  by_cases fits : byteSize noun ≤ byteSize w
  · exact endingWith?_append_of_fits within p fits
  · rw [endingWith?_append_of_longer within p (Nat.lt_of_not_le fits), endingWith?, if_neg fits]
    rfl

theorem isSome_endingWith?_append {noun : List Char} (within : WithinPart noun) (p w : List Char) :
    (endingWith? noun (p ++ '_' :: w)).isSome = (endingWith? noun w).isSome := by
  rw [endingWith?_append within, Option.isSome_map]

theorem withinPart_uncountable : ∀ noun ∈ uncountable, WithinPart noun.toList := by
  have checked : ∀ noun ∈ uncountable,
      noun.toList ≠ [] ∧ '_' ∉ noun.toList.map Char.toLower := by decide
  exact fun noun member => ⟨(checked noun member).1, (checked noun member).2⟩

theorem withinPart_irregular : ∀ noun ∈ irregular, WithinPart noun.1.toList := by
  have checked : ∀ noun ∈ irregular,
      noun.1.toList ≠ [] ∧ '_' ∉ noun.1.toList.map Char.toLower := by decide
  exact fun noun member => ⟨(checked noun member).1, (checked noun member).2⟩

theorem isUncountable_append (p w : List Char) :
    isUncountable (p ++ '_' :: w) = isUncountable w := by
  rw [isUncountable, isUncountable, Bool.eq_iff_iff, List.any_eq_true, List.any_eq_true]
  refine exists_congr fun noun => and_congr_right fun member => ?_
  rw [isSome_endingWith?_append (withinPart_uncountable noun member)]

theorem findSome?_congr_of_mem {α β : Type} {f g : α → Option β} {l : List α}
    (same : ∀ a ∈ l, f a = g a) : l.findSome? f = l.findSome? g := by
  induction l with
  | nil => rfl
  | cons a l ih =>
    rw [List.findSome?_cons, List.findSome?_cons, same a List.mem_cons_self,
      ih fun b member => same b (List.mem_cons_of_mem a member)]

theorem irregularPlural?_append (p w : List Char) :
    irregularPlural? (p ++ '_' :: w) = (irregularPlural? w).map (p ++ '_' :: ·) := by
  rw [irregularPlural?, irregularPlural?, List.map_findSome?]
  refine findSome?_congr_of_mem ?_
  rintro ⟨noun, plural⟩ member
  simp only [Function.comp, endingWith?_append (withinPart_irregular _ member)]
  cases endingWith? noun.toList w <;> simp

/-! ## Endings -/

theorem isPrefixOf_append_underscore {letters : List Char} (clear : '_' ∉ letters)
    (back more : List Char) :
    letters.isPrefixOf (back ++ '_' :: more) = letters.isPrefixOf back := by
  induction letters generalizing back with
  | nil => simp
  | cons c letters ih =>
    obtain ⟨other, clear⟩ := not_or.1 (mt List.mem_cons.2 clear)
    cases back with
    | nil =>
      rw [List.nil_append, List.isPrefixOf_cons_cons, beq_eq_false_iff_ne.2 (Ne.symm other)]
      rfl
    | cons d back =>
      rw [List.cons_append, List.isPrefixOf_cons_cons, List.isPrefixOf_cons_cons, ih clear]

theorem reverse_smallText_append (p w : List Char) :
    (Casing.smallText (p ++ '_' :: w)).reverse =
      (Casing.smallText w).reverse ++ '_' :: (Casing.smallText p).reverse := by
  simp [Casing.smallText_append_underscore]

theorem isSibilant_append (p w : List Char) :
    isSibilant (Casing.smallText (p ++ '_' :: w)).reverse =
      isSibilant (Casing.smallText w).reverse := by
  have clear : ∀ letters ∈ sibilants, '_' ∉ letters.toList.reverse := by decide
  rw [reverse_smallText_append, isSibilant, isSibilant, Bool.eq_iff_iff, List.any_eq_true,
    List.any_eq_true]
  refine exists_congr fun letters => and_congr_right fun member => ?_
  rw [isPrefixOf_append_underscore (clear letters member)]

theorem isConsonantY_append (p : List Char) {w : List Char} (filled : w ≠ []) :
    isConsonantY (Casing.smallText (p ++ '_' :: w)).reverse =
      isConsonantY (Casing.smallText w).reverse := by
  have small : (Casing.smallText w).reverse ≠ [] := by
    simpa using Casing.smallText_ne_nil filled
  rw [reverse_smallText_append]
  match (Casing.smallText w).reverse, small with
  | [c], _ => rfl
  | c :: d :: back, _ => rfl

theorem ending_append (p : List Char) {w : List Char} (filled : w ≠ []) (letters : String) :
    ending (p ++ '_' :: w) letters = ending w letters := by
  have last : (p ++ '_' :: w).getLast? = w.getLast? := by
    rw [List.getLast?_append_cons, ← List.singleton_append, List.getLast?_append_of_ne_nil _ filled]
  rw [ending, ending, last]

theorem regular_append (p : List Char) {w : List Char} (filled : w ≠ []) :
    regular (p ++ '_' :: w) = p ++ '_' :: regular w := by
  have shorter : (p ++ '_' :: w).dropLast = p ++ '_' :: w.dropLast := by
    rw [List.dropLast_append_cons, List.dropLast_cons_of_ne_nil filled]
  simp only [regular, isConsonantY_append p filled, isSibilant_append, ending_append p filled,
    shorter]
  split
  · simp
  · split <;> simp

theorem pluralChars_append (p : List Char) {w : List Char} (filled : w ≠ []) :
    pluralChars (p ++ '_' :: w) = p ++ '_' :: pluralChars w := by
  have whole : (p ++ '_' :: w).isEmpty = false := by simp
  have part : w.isEmpty = false := by simpa using filled
  rw [pluralChars, pluralChars, whole, part, isUncountable_append, irregularPlural?_append,
    regular_append p filled]
  simp only [Bool.false_eq_true, if_false]
  split
  · rfl
  · cases irregularPlural? w <;> rfl

/-- The rules decide for a name as they do for its last word. -/
structure DecidesAlike (name word : List Char) : Prop where
  uncountable : ∀ noun ∈ uncountable,
    (endingWith? noun.toList name).isSome = (endingWith? noun.toList word).isSome
  irregular : ∀ noun ∈ irregular,
    (endingWith? noun.1.toList name).isSome = (endingWith? noun.1.toList word).isSome
  consonantY : isConsonantY (Casing.smallText name).reverse =
    isConsonantY (Casing.smallText word).reverse
  sibilant : isSibilant (Casing.smallText name).reverse = isSibilant (Casing.smallText word).reverse
  ending : ∀ letters, ending name letters = ending word letters

theorem decidesAlike_append (p : List Char) {w : List Char} (filled : w ≠ []) :
    DecidesAlike (p ++ '_' :: w) w where
  uncountable noun member := isSome_endingWith?_append (withinPart_uncountable noun member) p w
  irregular noun member := isSome_endingWith?_append (withinPart_irregular noun member) p w
  consonantY := isConsonantY_append p filled
  sibilant := isSibilant_append p w
  ending := ending_append p filled

end Plural
end Scaffold.Text

namespace Scaffold.Inflector
open Text

/-- The English plural of a name changes only its last word: what stands before an underscore plays
no part in the plural of what stands behind it, whichever rule makes it. -/
theorem plural_append_underscore {w : String} (filled : w ≠ "") (p : String) :
    english.plural (p ++ "_" ++ w) = p ++ "_" ++ english.plural w ∧
      Plural.DecidesAlike (p ++ "_" ++ w).toList w.toList := by
  have chars : (p ++ "_" ++ w).toList = p.toList ++ '_' :: w.toList := by simp
  have some_char : w.toList ≠ [] := mt String.toList_eq_nil_iff.1 filled
  refine ⟨?_, chars ▸ Plural.decidesAlike_append p.toList some_char⟩
  change Plural.plural (p ++ "_" ++ w) = p ++ "_" ++ Plural.plural w
  apply String.toList_inj.1
  rw [Plural.plural, String.toList_ofList, chars, Plural.pluralChars_append p.toList some_char]
  simp [Plural.plural]

/-- An irregular noun, a one-letter word that would be a sibilant with the letter before the
underscore, and a word that ends in a final sigma like the one before it. -/
theorem plural_append_underscore_nouns :
    english.plural ("night" ++ "_" ++ "Person") = "night_People" ∧
      english.plural ("c" ++ "_" ++ "h") = "c_hs" ∧
      english.plural ("ΑΣ" ++ "_" ++ "ΒΟΣ") = "ΑΣ_ΒΟΣS" := by
  have noun : english.plural "Person" = "People" := by decide +kernel
  have letter : english.plural "h" = "hs" := by decide +kernel
  have sigma : english.plural "ΒΟΣ" = "ΒΟΣS" := by decide +kernel
  have first : "Person" ≠ "" := by decide
  have second : "h" ≠ "" := by decide
  have third : "ΒΟΣ" ≠ "" := by decide
  refine ⟨?_, ?_, ?_⟩
  · rw [(plural_append_underscore first "night").1, noun]
    decide
  · rw [(plural_append_underscore second "c").1, letter]
    decide
  · rw [(plural_append_underscore third "ΑΣ").1, sigma]
    decide

end Scaffold.Inflector
