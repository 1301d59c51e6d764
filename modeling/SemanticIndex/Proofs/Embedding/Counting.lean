import Mathlib.Data.List.Count
import SemanticIndex.Embedding.Hashing
import SemanticIndex.Proofs.Embedding.WholeNumbers
import SemanticIndex.Proofs.Text.Words

/-!
# Counting words

A vector starts as zeros, and every word adds one to its bucket or takes one away.  In single
precision this is counting with whole numbers, and as long as there are fewer than `2 ^ 24` words no
bucket reaches the limit of counting.  A bucket then has the number of words that count up in it
less those that count down, which does not depend on the order of the words.
-/

namespace SemanticIndex

/-! ## Counting in single precision -/

/-- What a word adds to its bucket. -/
def Placement.unit (placement : Placement) : Float32 :=
  if placement.positive then 1 else -1

/-- Add a word to its bucket; nothing comes of a bucket outside of the vector. -/
def addWord?
    (buckets : Nat)
    (vector : Array Float32)
    (placement : Placement) : Option (Array Float32) :=
  let bucket := placement.hash % buckets
  if inside : bucket < vector.size then
    some (vector.set bucket (vector[bucket] + placement.unit))
  else none

/-- Add words one after the other to a vector of zeros. -/
def addWords? (buckets : Nat) (placements : List Placement) : Option (Array Float32) :=
  placements.foldlM (addWord? buckets) (Array.replicate buckets 0)

/-- A count within the limit of counting. -/
def IsCount (count : Int) : Prop :=
  -countLimit ≤ count ∧ count ≤ countLimit

theorem IsCount.countOne
    {count : Int}
    (isCount : IsCount count)
    (positive : Bool) :
    IsCount (countOne positive count) := by
  obtain ⟨least, most⟩ := isCount
  simp only [IsCount, SemanticIndex.countOne, countLimit] at *
  cases positive <;> simp only [Bool.false_eq_true, if_true, if_false] <;> omega

/-- One more in single precision is the next count, also at the limit. -/
theorem ofInt_add_one
    {count : Int}
    (isCount : IsCount count) :
    Float32.ofInt count + 1 = Float32.ofInt (countOne true count) := by
  obtain ⟨least, most⟩ := isCount
  rw [countLimit] at least most
  by_cases inside : -0x1000000 < count ∧ count < 0xFFFFFF
  · have next : countOne true count = count + 1 := by
      simp only [countOne, countLimit, if_true]
      omega
    have unit : (1 : Float32) = Float32.ofInt 1 := rfl
    rw [next, unit]
    exact SinglePrecision.ofInt_add (by omega) (by decide) (by omega)
  · -- Around the limit there are three counts, for which both sides are evaluated.
    have ends : count = -0x1000000 ∨ count = 0xFFFFFF ∨ count = 0x1000000 := by omega
    rcases ends with rfl | rfl | rfl <;> rfl

theorem ofInt_sub_one
    {count : Int}
    (isCount : IsCount count) :
    Float32.ofInt count + -1 = Float32.ofInt (countOne false count) := by
  obtain ⟨least, most⟩ := isCount
  rw [countLimit] at least most
  by_cases inside : -0xFFFFFF < count ∧ count < 0x1000000
  · have next : countOne false count = count + -1 := by
      simp only [countOne, countLimit, Bool.false_eq_true, if_false]
      omega
    have unit : (-1 : Float32) = Float32.ofInt (-1) := rfl
    rw [next, unit]
    exact SinglePrecision.ofInt_add (by omega) (by decide) (by omega)
  · have ends : count = -0x1000000 ∨ count = -0xFFFFFF ∨ count = 0x1000000 := by omega
    rcases ends with rfl | rfl | rfl <;> rfl

theorem ofInt_add_unit
    {count : Int}
    (isCount : IsCount count)
    (placement : Placement) :
    Float32.ofInt count + placement.unit = Float32.ofInt (countOne placement.positive count) := by
  cases sign : placement.positive with
  | true =>
    rw [Placement.unit, sign]
    exact ofInt_add_one isCount
  | false =>
    rw [Placement.unit, sign]
    exact ofInt_sub_one isCount

/-! ## Counting in every bucket -/

/-- A vector of counts with an entry for every bucket. -/
structure Counts (buckets : Nat) (counts : Array Int) : Prop where
  size : counts.size = buckets
  isCount : ∀ bucket : Nat, ∀ count ∈ counts[bucket]?, IsCount count

variable {buckets : Nat} {counts : Array Int}

theorem counts_replicate (buckets : Nat) : Counts buckets (Array.replicate buckets 0) where
  size := Array.size_replicate
  isCount bucket count inside := by
    obtain ⟨-, rfl⟩ : bucket < buckets ∧ 0 = count := by
      simpa [Array.getElem?_replicate] using inside
    exact ⟨by decide, by decide⟩

/-- A word changes the count of its bucket and no other one. -/
theorem getElem?_countWord
    (counts : Array Int)
    (placement : Placement)
    (bucket : Nat) :
    (countWord counts placement)[bucket]? =
      if placement.hash % counts.size = bucket then
        counts[bucket]?.map (countOne placement.positive)
      else counts[bucket]? :=
  Array.getElem?_modify

theorem size_countWord (counts : Array Int) (placement : Placement) :
    (countWord counts placement).size = counts.size :=
  Array.size_modify

namespace Counts

variable (isCounts : Counts buckets counts)

include isCounts

theorem countWord (placement : Placement) : Counts buckets (countWord counts placement) where
  size := (size_countWord counts placement).trans isCounts.size
  isCount bucket count inside := by
    rw [getElem?_countWord] at inside
    split at inside
    · obtain ⟨before, found, rfl⟩ := Option.mem_map.mp inside
      exact (isCounts.isCount bucket before found).countOne placement.positive
    · exact isCounts.isCount bucket count inside

/-- In single precision a word finds its bucket and leaves the next count there. -/
theorem addWord?_eq
    (someBuckets : 0 < buckets)
    (placement : Placement) :
    addWord? buckets (counts.map Float32.ofInt) placement =
      some ((SemanticIndex.countWord counts placement).map Float32.ofInt) := by
  have size := isCounts.size
  subst size
  have found : placement.hash % counts.size < counts.size := Nat.mod_lt _ someBuckets
  have inside : placement.hash % counts.size < (counts.map Float32.ofInt).size := by
    rwa [Array.size_map]
  have isCount := isCounts.isCount _ _ (Array.getElem?_eq_getElem found)
  refine (dif_pos inside).trans (congrArg some ?_)
  rw [Array.getElem_map, ofInt_add_unit isCount]
  apply Array.ext_getElem?
  intro bucket
  rw [Array.getElem?_set, Array.getElem?_map, Array.getElem?_map, getElem?_countWord]
  split
  · rename_i here
    subst here
    rw [Array.getElem?_eq_getElem found]
    rfl
  · rfl

theorem foldlM_addWord?
    (someBuckets : 0 < buckets)
    (placements : List Placement) :
    placements.foldlM (addWord? buckets) (counts.map Float32.ofInt) =
      some ((placements.foldl SemanticIndex.countWord counts).map Float32.ofInt) := by
  induction placements generalizing counts with
  | nil => rfl
  | cons placement rest induction =>
    rw [List.foldlM_cons, isCounts.addWord?_eq someBuckets, List.foldl_cons]
    exact induction (isCounts.countWord placement)

end Counts

/-- Adding words in single precision is counting, and every word finds its bucket. -/
theorem addWords?_eq
    (someBuckets : 0 < buckets)
    (placements : List Placement) :
    addWords? buckets placements = some ((countWords buckets placements).map Float32.ofInt) := by
  have zero : Float32.ofInt 0 = 0 := rfl
  have zeros : Array.replicate buckets (0 : Float32) =
      (Array.replicate buckets (0 : Int)).map Float32.ofInt := by
    rw [Array.map_replicate, zero]
  rw [addWords?, zeros]
  exact (counts_replicate buckets).foldlM_addWord? someBuckets placements

/-! ## What a bucket counts -/

/-- What a word counts in its own bucket. -/
def Placement.step (placement : Placement) : Int :=
  if placement.positive then 1 else -1

/-- The words of a bucket that count up, less those that count down. -/
def balance (buckets : Nat) (placements : List Placement) (bucket : Nat) : Int :=
  let inside := placements.filter fun placement => placement.hash % buckets = bucket
  inside.countP (·.positive) - inside.countP (!·.positive)

theorem balance_perm
    {placements others : List Placement}
    (perm : placements.Perm others)
    (buckets bucket : Nat) :
    balance buckets placements bucket = balance buckets others bucket := by
  have inside := perm.filter fun placement => placement.hash % buckets = bucket
  rw [balance, balance, inside.countP_eq, inside.countP_eq]

theorem balance_cons
    (buckets : Nat)
    (placement : Placement)
    (rest : List Placement)
    (bucket : Nat) :
    balance buckets (placement :: rest) bucket =
      (if placement.hash % buckets = bucket then placement.step else 0) +
        balance buckets rest bucket := by
  by_cases here : placement.hash % buckets = bucket
  · rw [if_pos here, balance, balance, List.filter_cons_of_pos (by simpa using here)]
    cases sign : placement.positive <;> simp [Placement.step, sign] <;> omega
  · rw [if_neg here, balance, balance, List.filter_cons_of_neg (by simpa using here), Int.zero_add]

/-- Away from the limit a word counts by one. -/
theorem countOne_eq_add_step
    {count : Int}
    (small : count.natAbs < 0x1000000)
    (placement : Placement) :
    countOne placement.positive count = count + placement.step := by
  cases sign : placement.positive <;> simp [countOne, Placement.step, countLimit, sign] <;> omega

/-- As long as the limit is out of reach, a bucket counts all of its words. -/
theorem getElem?_foldl_countWord
    (placements : List Placement)
    (small : ∀ bucket : Nat, ∀ count ∈ counts[bucket]?,
      count.natAbs + placements.length ≤ 0x1000000)
    (bucket : Nat) :
    (placements.foldl countWord counts)[bucket]? =
      counts[bucket]?.map (· + balance counts.size placements bucket) := by
  induction placements generalizing counts with
  | nil => simp [balance]
  | cons placement rest induction =>
    -- A word takes its count at most one nearer to the limit, and one word fewer is left.
    have next (bucket : Nat) (count : Int) (inside : count ∈ counts[bucket]?) :
        countOne placement.positive count = count + placement.step ∧
          count.natAbs + rest.length < 0x1000000 := by
      have bound := small bucket count inside
      rw [List.length_cons] at bound
      exact ⟨countOne_eq_add_step (by omega) placement, by omega⟩
    have stepBound : placement.step.natAbs = 1 := by
      cases sign : placement.positive <;> simp [Placement.step, sign]
    have restSmall : ∀ bucket : Nat, ∀ count ∈ (countWord counts placement)[bucket]?,
        count.natAbs + rest.length ≤ 0x1000000 := by
      intro bucket count inside
      rw [getElem?_countWord] at inside
      split at inside
      · obtain ⟨before, found, rfl⟩ := Option.mem_map.mp inside
        obtain ⟨counted, bound⟩ := next bucket before found
        omega
      · exact (next bucket count inside).2.le
    rw [List.foldl_cons, induction restSmall, size_countWord, getElem?_countWord, balance_cons]
    cases found : counts[bucket]? with
    | none => simp
    | some count =>
      have counted := (next bucket count found).1
      split
      · simp [counted, Int.add_assoc]
      · simp

theorem size_countWords (buckets : Nat) (placements : List Placement) :
    (countWords buckets placements).size = buckets := by
  have kept (counts : Array Int) : (placements.foldl countWord counts).size = counts.size := by
    induction placements generalizing counts with
    | nil => rfl
    | cons placement rest induction => rw [List.foldl_cons, induction, size_countWord]
  rw [countWords, kept, Array.size_replicate]

section Few

variable {placements others : List Placement} (few : placements.length < 0x1000000)

include few

theorem getElem?_countWords
    {bucket : Nat}
    (inside : bucket < buckets) :
    (countWords buckets placements)[bucket]? = some (balance buckets placements bucket) := by
  have zeros (bucket : Nat) (count : Int) (found : count ∈ (Array.replicate buckets 0)[bucket]?) :
      count.natAbs + placements.length ≤ 0x1000000 := by
    obtain ⟨-, rfl⟩ : bucket < buckets ∧ 0 = count := by
      simpa [Array.getElem?_replicate] using found
    omega
  rw [countWords, getElem?_foldl_countWord placements zeros, Array.size_replicate,
    Array.getElem?_replicate, if_pos inside, Option.map_some, Int.zero_add]

/-- The order of words does not matter to counting. -/
theorem countWords_perm
    (perm : placements.Perm others)
    (buckets : Nat) :
    countWords buckets placements = countWords buckets others := by
  have otherFew : others.length < 0x1000000 := perm.length_eq ▸ few
  have sizes := (size_countWords buckets placements).trans (size_countWords buckets others).symm
  refine Array.ext sizes fun bucket inside otherInside => Option.some.inj ?_
  have bound : bucket < buckets := by
    rwa [size_countWords] at inside
  rw [← Array.getElem?_eq_getElem inside, ← Array.getElem?_eq_getElem otherInside,
    getElem?_countWords few bound, getElem?_countWords otherFew bound, balance_perm perm]

end Few

/-! ## Vectors of texts -/

theorem length_normalizeCounts (counts : Array Int) :
    (normalizeCounts counts).length = counts.size := by
  rw [normalizeCounts]
  split <;> simp

namespace HashEmbedder

variable {embedder : HashEmbedder}

/-- The placements of the words that a text is made of. -/
def placements (words : List (List Char)) : List Placement :=
  words.map fun word => Placement.ofWord (Text.lower word)

theorem counts_of_spaced
    (embedder : HashEmbedder)
    {words : List (List Char)}
    {text : List Char}
    (spaced : Text.Spaced words text) :
    embedder.counts text = countWords (max embedder.dimensions 1) (placements words) := by
  rw [counts, spaced.words_eq, placements]

theorem length_embedText (embedder : HashEmbedder) (text : String) :
    (embedder.embedText text).length = max embedder.dimensions 1 := by
  rw [embedText, List.length_map, length_normalizeCounts, counts, size_countWords]

theorem placements_perm
    {words others : List (List Char)}
    (perm : (words.map Text.lower).Perm (others.map Text.lower)) :
    (placements words).Perm (placements others) := by
  have placed := perm.map Placement.ofWord
  rwa [List.map_map, List.map_map] at placed

/--
Texts of fewer than `2 ^ 24` words that have the same lower-case words in any order, with any
blanks between and around them, have the same vector, bit by bit.  Its length is the number of
dimensions, and one for none.  It is the vector of counts, scaled.  Before it is scaled, adding the
words up in single precision finds every bucket inside of the vector and leaves in it exactly the
number of its words that count up less that of its words that count down.
-/
theorem embedText_of_perm
    (embedder : HashEmbedder)
    {text other : String}
    {words others : List (List Char)}
    (spaced : Text.Spaced words text.toList)
    (otherSpaced : Text.Spaced others other.toList)
    (perm : (words.map Text.lower).Perm (others.map Text.lower))
    (few : words.length < 2 ^ 24) :
    let buckets := max embedder.dimensions 1
    embedder.embedText text = embedder.embedText other ∧
      (embedder.embedText text).length = buckets ∧
      embedder.embedText text =
        (normalizeCounts (embedder.counts text.toList)).map Float32.toBits ∧
      addWords? buckets (placements words) =
        some ((embedder.counts text.toList).map Float32.ofInt) ∧
      ∀ bucket < buckets,
        (embedder.counts text.toList)[bucket]? =
          some (balance buckets (placements words) bucket) := by
  intro buckets
  have someBuckets : 0 < buckets := Nat.lt_of_lt_of_le Nat.one_pos (Nat.le_max_right _ _)
  have fewPlacements : (placements words).length < 0x1000000 := by
    rw [placements, List.length_map]
    exact few
  have sameCounts : embedder.counts text.toList = embedder.counts other.toList := by
    rw [counts_of_spaced embedder spaced, counts_of_spaced embedder otherSpaced]
    exact countWords_perm fewPlacements (placements_perm perm) buckets
  refine ⟨?_, length_embedText embedder text, rfl, ?_, ?_⟩
  · rw [embedText, sameCounts, embedText]
  · rw [counts_of_spaced embedder spaced]
    exact addWords?_eq someBuckets (placements words)
  · intro bucket inside
    rw [counts_of_spaced embedder spaced]
    exact getElem?_countWords fewPlacements inside

/-- Words in another order and case, among other blanks, for an embedder without dimensions. -/
theorem embedText_of_perm_orders :
    let text := "Orders by\t\u2003month"
    let other := "\nMONTH  orders By "
    let words := ["Orders".toList, "by".toList, "month".toList]
    let others := ["MONTH".toList, "orders".toList, "By".toList]
    Text.Spaced words text.toList ∧ Text.Spaced others other.toList ∧
      (words.map Text.lower).Perm (others.map Text.lower) ∧ words.length < 2 ^ 24 ∧
      (HashEmbedder.mk 0).embedText text = (HashEmbedder.mk 0).embedText other ∧
      ((HashEmbedder.mk 0).embedText text).length = 1 ∧
      (HashEmbedder.mk 0).embedText text =
        (normalizeCounts ((HashEmbedder.mk 0).counts text.toList)).map Float32.toBits ∧
      addWords? 1 (placements words) =
        some (((HashEmbedder.mk 0).counts text.toList).map Float32.ofInt) ∧
      ((HashEmbedder.mk 0).counts text.toList)[0]? = some (-1) := by
  intro text other words others
  have spaced : Text.Spaced words text.toList :=
    Text.words_eq_iff_spaced.mp (by decide +kernel)
  have otherSpaced : Text.Spaced others other.toList :=
    Text.words_eq_iff_spaced.mp (by decide +kernel)
  have perm : (words.map Text.lower).Perm (others.map Text.lower) := by decide +kernel
  have few : words.length < 2 ^ 24 := by decide
  -- One of the three words counts up and two count down.
  have counted : balance 1 (placements words) 0 = -1 := by decide +kernel
  obtain ⟨same, length, scaled, added, buckets⟩ :=
    embedText_of_perm ⟨0⟩ spaced otherSpaced perm few
  have bucket := buckets 0 Nat.one_pos
  exact ⟨spaced, otherSpaced, perm, few, same, length, scaled, added, counted ▸ bucket⟩

end HashEmbedder

end SemanticIndex
