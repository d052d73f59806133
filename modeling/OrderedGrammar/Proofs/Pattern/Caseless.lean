import Mathlib.Data.Nat.Notation
import Mathlib.Tactic.SplitIfs
import OrderedGrammar.Pattern.CharSet

/-!
# Characters without case

An ASCII character that is no letter has no variant but itself (`Pattern.any_variants_iff`), however
far case counts, so that a set that is given by such characters holds just these.  The tables of
letters are looked at as a whole: a letter beyond ASCII differs in case from letters only, and but
for four of them (`Text.lookalikes`) from no letter of ASCII.
-/

namespace OrderedGrammar

namespace Text

/-- Whether a code point is that of a letter or lies beyond ASCII.  Zero counts as such, for it
stands for the code points that are no characters. -/
def IsLetterOrBeyond (n : ℕ) : Prop := n = 0 ∨ 0x80 ≤ n ∨ (Char.ofNat n).isAlpha

instance (n : ℕ) : Decidable (IsLetterOrBeyond n) := inferInstanceAs (Decidable (_ ∨ _))

/-- Whether the run takes letters beyond ASCII to such code points. -/
def CaseRun.KeepsBeyond (r : CaseRun) : Prop :=
  r.last < 0x80 ∨ 0x80 ≤ (r.first : Int) + r.shift ∨
    (r.first = r.last ∧ IsLetterOrBeyond (r.lower r.first))

instance (r : CaseRun) : Decidable r.KeepsBeyond := inferInstanceAs (Decidable (_ ∨ _))

theorem keepsBeyond_of_mem : ∀ r ∈ caseRuns, r.KeepsBeyond := by decide +kernel

theorem CaseRun.holds_iff {r : CaseRun} {n : ℕ} :
    r.holds n ↔ r.first ≤ n ∧ n ≤ r.last ∧ (n - r.first) % r.stride = 0 := by
  simp [CaseRun.holds, and_assoc]

theorem CaseRun.KeepsBeyond.lower {r : CaseRun} (h : r.KeepsBeyond) {n : ℕ} (hn : 0x80 ≤ n)
    (hr : r.holds n) : IsLetterOrBeyond (r.lower n) := by
  obtain ⟨hfirst, hlast, -⟩ := CaseRun.holds_iff.1 hr
  rcases h with h | h | ⟨h, hletter⟩
  · omega
  · refine .inr (.inl ?_)
    rw [CaseRun.lower]
    simp only [Int.ofNat_eq_natCast]
    omega
  · obtain rfl : n = r.first := by omega
    exact hletter

theorem isLetterOrBeyond_lowerAmong {runs : List CaseRun} (h : ∀ r ∈ runs, r.KeepsBeyond) {n : ℕ}
    (hn : 0x80 ≤ n) : IsLetterOrBeyond (lowerAmong runs n) := by
  induction runs with
  | nil => exact .inr (.inl hn)
  | cons r runs ih =>
    obtain ⟨hr, hruns⟩ := List.forall_mem_cons.1 h
    rw [lowerAmong]
    split_ifs with hfirst hholds
    · exact .inr (.inl hn)
    · exact hr.lower hn hholds
    · exact ih hruns

theorem isLetterOrBeyond_of_mem_siblings {m n : ℕ} (hm : IsLetterOrBeyond m)
    (h : n ∈ siblings m) : IsLetterOrBeyond n := by
  have hclasses : ∀ cls ∈ siblingClasses, ∀ k ∈ cls, IsLetterOrBeyond k := by decide +kernel
  rw [siblings] at h
  cases hfind : siblingClasses.find? (·.contains m) with
  | none =>
    rw [hfind, Option.getD_none, List.mem_singleton] at h
    exact h ▸ hm
  | some cls =>
    rw [hfind, Option.getD_some] at h
    exact hclasses cls (List.mem_of_find?_eq_some hfind) n h

theorem isLetterOrBeyond_of_mem_capitals {m n : ℕ} (h : n ∈ capitals m) : IsLetterOrBeyond n := by
  have hruns : ∀ r ∈ caseRuns, 0x80 ≤ r.first ∨ (0x41 ≤ r.first ∧ r.last ≤ 0x5A) := by
    decide +kernel
  have hletters : ∀ k ≤ 0x5A, 0x41 ≤ k → (Char.ofNat k).isAlpha := by decide
  obtain ⟨r, hr, hcapital⟩ := List.mem_filterMap.1 h
  rw [CaseRun.capital?] at hcapital
  split at hcapital
  · next hholds =>
    obtain ⟨hfirst, hlast, -⟩ := CaseRun.holds_iff.1 (Option.some.inj hcapital ▸ hholds)
    rcases hruns r hr with hbeyond | ⟨hlow, hhigh⟩
    · exact .inr (.inl (by omega))
    · exact .inr (.inr (hletters n (by omega) (by omega)))
  · cases hcapital

theorem toNat_ofNat_eq_or (n : ℕ) : (Char.ofNat n).toNat = n ∨ (Char.ofNat n).toNat = 0 := by
  by_cases h : n.isValidChar
  · exact .inl (congrArg Char.toNat (dif_pos h))
  · exact .inr (congrArg Char.toNat (dif_neg h))

/-- A variant of a character beyond ASCII is a letter or beyond ASCII, too. -/
theorem isLetterOrBeyond_of_mem_variants {c x : Char} (hc : 0x80 ≤ c.toNat) (h : x ∈ variants c) :
    IsLetterOrBeyond x.toNat := by
  rw [variants, if_neg (by omega)] at h
  obtain ⟨n, hn, rfl⟩ := List.mem_map.1 h
  obtain ⟨m, hm, hn⟩ := List.mem_flatMap.1 hn
  have hlower : IsLetterOrBeyond (lowerChar c).toNat := by
    rw [lowerChar, if_neg (by omega)]
    rcases toNat_ofNat_eq_or (lowerAmong caseRuns c.toNat) with h | h <;> rw [h]
    · exact isLetterOrBeyond_lowerAmong keepsBeyond_of_mem hc
    · exact .inl rfl
  have hletter : IsLetterOrBeyond n := by
    rcases List.mem_cons.1 hn with rfl | hn
    · exact isLetterOrBeyond_of_mem_siblings hlower hm
    · exact isLetterOrBeyond_of_mem_capitals hn
  rcases toNat_ofNat_eq_or n with h | h <;> rw [h]
  · exact hletter
  · exact .inl rfl

/-! ### Letters beyond ASCII that have a variant in ASCII -/

/-- The code points beyond ASCII of letters that differ from a letter of ASCII in case only: the
capital `i` with a dot, the small one without, the long `s` and the sign for Kelvin. -/
def lookalikes : List ℕ := [0x130, 0x131, 0x17F, 0x212A]

/-- Whether the run takes no letter beyond ASCII to a letter of ASCII or a lookalike, unless it is
one of the lookalikes. -/
def CaseRun.KeepsApart (r : CaseRun) : Prop :=
  r.last < 0x80 ∨ (r.first = r.last ∧ r.first ∈ lookalikes) ∨
    (0x80 ≤ (r.first : Int) + r.shift ∧
      ∀ n ∈ lookalikes, (r.last : Int) + r.shift < n ∨ n < (r.first : Int) + r.shift)

instance (r : CaseRun) : Decidable r.KeepsApart := inferInstanceAs (Decidable (_ ∨ _))

theorem CaseRun.KeepsApart.mem_lookalikes {r : CaseRun} (h : r.KeepsApart) {n : ℕ}
    (hn : 0x80 ≤ n) (hr : r.holds n) (hlower : r.lower n < 0x80 ∨ r.lower n ∈ lookalikes) :
    n ∈ lookalikes := by
  obtain ⟨hfirst, hlast, -⟩ := CaseRun.holds_iff.1 hr
  rcases h with h | ⟨h, hmem⟩ | ⟨h, hapart⟩
  · omega
  · rwa [show n = r.first by omega]
  · rw [CaseRun.lower, Int.ofNat_eq_natCast] at hlower
    rcases hlower with hlower | hlower
    · omega
    · have hoff := hapart _ hlower
      omega

theorem mem_lookalikes_of_lowerAmong {runs : List CaseRun} (h : ∀ r ∈ runs, r.KeepsApart) {n : ℕ}
    (hn : 0x80 ≤ n) (hlower : lowerAmong runs n < 0x80 ∨ lowerAmong runs n ∈ lookalikes) :
    n ∈ lookalikes := by
  induction runs with
  | nil => exact hlower.resolve_left (by rw [lowerAmong]; omega)
  | cons r runs ih =>
    obtain ⟨hr, hruns⟩ := List.forall_mem_cons.1 h
    rw [lowerAmong] at hlower
    split_ifs at hlower with hfirst hholds
    · exact hlower.resolve_left (by omega)
    · exact hr.mem_lookalikes hn hholds hlower
    · exact ih hruns hlower

theorem near_of_mem_siblings {m n : ℕ} (h : m ∈ siblings n) (hm : m < 0x80) :
    n < 0x80 ∨ n ∈ lookalikes := by
  have hclasses : ∀ cls ∈ siblingClasses, ∀ k ∈ cls, k < 0x80 →
      ∀ l ∈ cls, l < 0x80 ∨ l ∈ lookalikes := by decide
  rw [siblings] at h
  cases hfind : siblingClasses.find? (·.contains n) with
  | none =>
    rw [hfind, Option.getD_none, List.mem_singleton] at h
    exact .inl (h ▸ hm)
  | some cls =>
    rw [hfind, Option.getD_some] at h
    have hn : cls.contains n := List.find?_some (p := fun cls => List.contains cls n) hfind
    exact hclasses cls (List.mem_of_find?_eq_some hfind) m h hm n (List.contains_iff_mem.1 hn)

theorem lt_of_mem_capitals {m n : ℕ} (h : n ∈ capitals m) (hn : n < 0x80) : m < 0x80 := by
  have hruns : ∀ r ∈ caseRuns, 0x80 ≤ r.first ∨ (r.last : Int) + r.shift < 0x80 := by
    decide +kernel
  obtain ⟨r, hr, hcapital⟩ := List.mem_filterMap.1 h
  rw [CaseRun.capital?] at hcapital
  split at hcapital
  · next hholds =>
    obtain ⟨hfirst, hlast, -⟩ := CaseRun.holds_iff.1 hholds
    have hcode := Option.some.inj hcapital
    rw [Int.ofNat_eq_natCast] at hfirst hlast hcode
    have hrun := hruns r hr
    omega
  · cases hcapital

/-- A character beyond ASCII with a variant in ASCII is one of the lookalikes. -/
theorem mem_lookalikes_of_mem_variants {c x : Char} (hc : 0x80 ≤ c.toNat) (h : x ∈ variants c)
    (hx : x.toNat < 0x80) (hne : x.toNat ≠ 0) : c.toNat ∈ lookalikes := by
  have hruns : ∀ r ∈ caseRuns, r.KeepsApart := by decide +kernel
  have hzero : ∀ m ∈ siblings 0, ∀ n ∈ m :: capitals m, n = 0 := by decide +kernel
  rw [variants, if_neg (by omega)] at h
  obtain ⟨n, hn, rfl⟩ := List.mem_map.1 h
  obtain ⟨m, hm, hn⟩ := List.mem_flatMap.1 hn
  have hcode : (Char.ofNat n).toNat = n := (toNat_ofNat_eq_or n).resolve_right hne
  rw [hcode] at hx hne
  rw [lowerChar, if_neg (by omega)] at hm
  rcases toNat_ofNat_eq_or (lowerAmong caseRuns c.toNat) with hlower | hlower <;> rw [hlower] at hm
  · have hsmall : m < 0x80 := by
      rcases List.mem_cons.1 hn with rfl | hn
      · exact hx
      · exact lt_of_mem_capitals hn hx
    exact mem_lookalikes_of_lowerAmong hruns hc (near_of_mem_siblings hm hsmall)
  · exact absurd (hzero m hm n hn) hne

end Text

namespace Pattern

open Text

section Variants

variable {rule : CaseRule} {c x : Char} {n : ℕ}

theorem toNat_lt_of_isAlpha (h : c.isAlpha) : c.toNat < 0x80 := by
  have hle : c.val.toNat ≤ 0x7A := by
    rcases Bool.or_eq_true_iff.1 h with h | h
    · have hupper : c.val ≤ 'Z'.val := (of_decide_eq_true h).2
      exact Nat.le_trans (UInt32.le_iff_toNat_le.1 hupper) (by decide)
    · have hlower : c.val ≤ 'z'.val := of_decide_eq_true (Bool.and_eq_true_iff.1 h).2
      exact Nat.le_trans (UInt32.le_iff_toNat_le.1 hlower) (by decide)
  exact Nat.lt_of_le_of_lt hle (by decide)

theorem toNat_lt_of_isAlphanum (h : c.isAlphanum) : c.toNat < 0x80 := by
  rw [Char.isAlphanum, Bool.or_eq_true] at h
  rcases h with h | h
  · exact toNat_lt_of_isAlpha h
  · exact Nat.lt_of_le_of_lt (Char.isDigit_iff_toNat.1 h).2 (by decide)

theorem eq_or_isLetterOrBeyond_of_mem_variants (h : x ∈ rule.variants c) :
    x = c ∨ IsLetterOrBeyond x.toNat := by
  have hascii : ∀ k < 0x80, (Char.ofNat k).isAlpha →
      (asciiVariants (Char.ofNat k)).all fun x => decide (IsLetterOrBeyond x.toNat) := by
    decide +kernel
  have hcase : ∀ k < 0x80, (Char.ofNat k).isAlpha →
      IsLetterOrBeyond (Char.ofNat k).toLower.toNat ∧
        IsLetterOrBeyond (Char.ofNat k).toUpper.toNat := by decide +kernel
  cases rule with
  | strict => exact .inl (List.mem_singleton.1 h)
  | ascii =>
    rw [CaseRule.variants] at h
    split at h
    · next halpha =>
      have hletters := hcase c.toNat (toNat_lt_of_isAlpha halpha) (by rwa [Char.ofNat_toNat])
      rw [Char.ofNat_toNat] at hletters
      simp only [List.mem_cons, List.not_mem_nil, or_false] at h
      rcases h with rfl | rfl
      · exact .inr hletters.1
      · exact .inr hletters.2
    · exact .inl (List.mem_singleton.1 h)
  | full =>
    rw [CaseRule.variants] at h
    by_cases hc : c.toNat < 0x80
    · rw [Text.variants, if_pos hc] at h
      by_cases halpha : c.isAlpha
      · have hall := hascii c.toNat hc (by rwa [Char.ofNat_toNat])
        rw [Char.ofNat_toNat, List.all_eq_true] at hall
        exact .inr (of_decide_eq_true (hall x h))
      · rw [asciiVariants, if_neg halpha, List.mem_singleton] at h
        exact .inl h
    · exact .inr (isLetterOrBeyond_of_mem_variants (by omega) h)

theorem self_mem_variants (h : ¬IsLetterOrBeyond c.toNat) : c ∈ rule.variants c := by
  simp only [IsLetterOrBeyond, Char.ofNat_toNat, not_or, Nat.not_le] at h
  obtain ⟨-, hc, halpha⟩ := h
  cases rule with
  | strict => exact List.mem_singleton_self c
  | ascii =>
    rw [CaseRule.variants, if_neg halpha]
    exact List.mem_singleton_self c
  | full =>
    rw [CaseRule.variants, Text.variants, if_pos hc, asciiVariants, if_neg halpha]
    exact List.mem_singleton_self c

/-- A character of ASCII that is no letter has no variant but itself. -/
theorem any_variants_iff (hn : ¬IsLetterOrBeyond n) :
    ((rule.variants c).any fun x => x.toNat == n) ↔ c.toNat = n := by
  rw [List.any_eq_true]
  constructor
  · rintro ⟨x, hx, heq⟩
    rw [beq_iff_eq] at heq
    rcases eq_or_isLetterOrBeyond_of_mem_variants hx with rfl | hletter
    · exact heq
    · exact absurd (heq ▸ hletter) hn
  · rintro rfl
    exact ⟨c, self_mem_variants hn, by simp⟩

theorem CharSet.holds_single_iff (hn : ¬IsLetterOrBeyond n) :
    (CharSet.single n false rule).holds c ↔ c.toNat = n := by
  rw [CharSet.holds, Bool.bne_false, any_variants_iff hn]

theorem CharItem.holds_one_iff (hn : ¬IsLetterOrBeyond n) :
    CharItem.holds rule (rule.variants c) c (.one n) ↔ c.toNat = n := by
  have hplane : n < planeEnd := by
    simp only [IsLetterOrBeyond, not_or, Nat.not_le] at hn
    exact Nat.lt_trans hn.2.1 (by decide)
  rw [CharItem.holds, if_pos hplane, any_variants_iff hn]

/-- A union of characters of ASCII that are no letters holds just these. -/
theorem CharSet.any_ones_iff {ns : List ℕ} (hns : ∀ n ∈ ns, ¬IsLetterOrBeyond n) :
    (ns.map CharItem.one).any (CharItem.holds rule (rule.variants c) c) ↔ c.toNat ∈ ns := by
  simp only [List.any_map, List.any_eq_true, Function.comp_apply]
  constructor
  · rintro ⟨n, hn, hholds⟩
    rw [(CharItem.holds_one_iff (hns n hn)).1 hholds]
    exact hn
  · intro hmem
    exact ⟨c.toNat, hmem, (CharItem.holds_one_iff (hns _ hmem)).2 rfl⟩

/-! ### Sets of characters of ASCII -/

/-- Whether the part is given by characters of ASCII. -/
def CharItem.isAscii : CharItem → Bool
  | .one n => 0 < n && n < 0x80
  | .range first last => 0 < first && last < 0x80
  | .named _ _ _ => false

/-- Whether the set is given by the characters of ASCII in it. -/
def CharSet.isAscii : CharSet → Bool
  | .single n negated _ => 0 < n && n < 0x80 && !negated
  | .union items negated _ => items.all CharItem.isAscii && !negated
  | _ => false

theorem mem_lookalikes_of_mem_variants (hc : 0x80 ≤ c.toNat) (h : x ∈ rule.variants c)
    (hpos : 0 < x.toNat) (hx : x.toNat < 0x80) : c.toNat ∈ lookalikes := by
  cases rule with
  | strict =>
    obtain rfl := List.mem_singleton.1 h
    omega
  | ascii =>
    rw [CaseRule.variants] at h
    split_ifs at h with halpha
    · exact absurd (toNat_lt_of_isAlpha halpha) (by omega)
    · obtain rfl := List.mem_singleton.1 h
      omega
  | full => exact Text.mem_lookalikes_of_mem_variants hc h hx (by omega)

theorem CharItem.exists_variant_of_holds {item : CharItem} (hitem : item.isAscii)
    (h : item.holds rule (rule.variants c) c) :
    ∃ x ∈ rule.variants c, 0 < x.toNat ∧ x.toNat < 0x80 := by
  cases item with
  | one n =>
    simp only [isAscii, Bool.and_eq_true, decide_eq_true_eq] at hitem
    have hplane : n < planeEnd := Nat.lt_trans hitem.2 (by decide)
    rw [holds, if_pos hplane, List.any_eq_true] at h
    obtain ⟨x, hx, heq⟩ := h
    exact ⟨x, hx, eq_of_beq heq ▸ hitem⟩
  | range first last =>
    simp only [isAscii, Bool.and_eq_true, decide_eq_true_eq] at hitem
    have hplane : ¬planeEnd ≤ last := Nat.not_le.2 (Nat.lt_trans hitem.2 (by decide))
    simp only [holds, hplane, decide_false, Bool.and_false, Bool.false_and, Bool.or_false,
      List.any_eq_true, Bool.and_eq_true, decide_eq_true_eq] at h
    obtain ⟨x, hx, hfirst, hlast⟩ := h
    exact ⟨x, hx, by omega⟩
  | named cls ascii negated => cases hitem

/-- Beyond ASCII, a set that is given by characters of ASCII holds at most the lookalikes. -/
theorem CharSet.mem_lookalikes_of_holds {s : CharSet} (hs : s.isAscii) (hc : 0x80 ≤ c.toNat)
    (h : s.holds c) : c.toNat ∈ lookalikes := by
  cases s with
  | all => cases hs
  | notNewline => cases hs
  | single n negated rule =>
    simp only [isAscii, Bool.and_eq_true, Bool.not_eq_true', decide_eq_true_eq] at hs
    obtain ⟨hn, rfl⟩ := hs
    rw [holds, Bool.bne_false, List.any_eq_true] at h
    obtain ⟨x, hx, heq⟩ := h
    obtain ⟨hpos, hlt⟩ := eq_of_beq heq ▸ hn
    exact mem_lookalikes_of_mem_variants hc hx hpos hlt
  | union items negated rule =>
    simp only [isAscii, Bool.and_eq_true, Bool.not_eq_true', List.all_eq_true] at hs
    obtain ⟨hitems, rfl⟩ := hs
    rw [holds, Bool.bne_false, List.any_eq_true] at h
    obtain ⟨item, hitem, hholds⟩ := h
    obtain ⟨x, hx, hpos, hlt⟩ := CharItem.exists_variant_of_holds (hitems item hitem) hholds
    exact mem_lookalikes_of_mem_variants hc hx hpos hlt

end Variants

end Pattern

end OrderedGrammar
