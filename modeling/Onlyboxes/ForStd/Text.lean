import Mathlib.Data.List.DropRight

/-!
# Go string helpers

`strings.TrimSpace`, `strings.HasPrefix`, `strings.Contains` and `strings.SplitN` on
Lean strings, through their lists of code points. White space is the Unicode
`White_Space` property, which is what `unicode.IsSpace` and Rust's `str::trim` use.
-/

namespace Text

/-- `unicode.IsSpace`: the code points with the `White_Space` property. -/
def isSpace (c : Char) : Bool :=
  let n := c.toNat
  (9 ≤ n && n ≤ 13) || n == 0x20 || n == 0x85 || n == 0xA0 || n == 0x1680 ||
    (0x2000 ≤ n && n ≤ 0x200A) || n == 0x2028 || n == 0x2029 || n == 0x202F ||
    n == 0x205F || n == 0x3000

/-- Trim white space from both ends of a list of code points. -/
def trimList (cs : List Char) : List Char :=
  (cs.dropWhile isSpace).rdropWhile isSpace

def trimSpace (s : String) : String :=
  String.ofList (trimList s.toList)

def hasPrefix (s p : String) : Bool :=
  p.toList.isPrefixOf s.toList

def contains (s sub : String) : Bool :=
  s.toList.tails.any fun cs => sub.toList.isPrefixOf cs

/-- `strings.SplitN` for a one-character separator, on code points: at most
    `n + 1` pieces, the last one unsplit. -/
def splitList (sep : Char) : Nat → List Char → List (List Char)
  | 0, cs => [cs]
  | n + 1, cs =>
    match cs.span (· != sep) with
    | (piece, []) => [piece]
    | (piece, _ :: rest) => piece :: splitList sep n rest

/-- `strings.SplitN(s, sep, n)` for `n ≥ 1`. -/
def splitN (s : String) (sep : Char) (n : Nat) : List String :=
  (splitList sep (n - 1) s.toList).map String.ofList

/-- A simple case mapping such as `unicode.ToLower`: one code point at a time, and
    lower case letters stay as they are. -/
structure CaseMap where
  lower : Char → Char
  lower_lower : ∀ c, lower (lower c) = lower c
  lower_isLower : ∀ c, c.isLower = true → lower c = c

/-- `strings.ToLower` under a case mapping. -/
def CaseMap.toLower (m : CaseMap) (s : String) : String :=
  String.ofList (s.toList.map m.lower)

/-- The case mapping of ASCII text: other characters are left alone. -/
def CaseMap.ascii : CaseMap where
  lower := Char.toLower
  lower_lower c := by
    unfold Char.toLower
    split
    · rename_i h
      rw [dif_neg]
      intro h'
      simp only [ge_iff_le, UInt32.le_iff_toNat_le] at h h'
      have hlow : 65 ≤ c.val.toNat := h.1
      have hhigh : c.val.toNat ≤ 90 := h.2
      have hshifted : (c.val.toNat + 32) % 2 ^ 32 ≤ 90 := h'.2
      omega
    · rfl
  lower_isLower c h := by
    unfold Char.toLower
    rw [dif_neg]
    intro h'
    unfold Char.isLower at h
    simp only [ge_iff_le, UInt32.le_iff_toNat_le, Bool.and_eq_true, decide_eq_true_eq] at h h'
    have hlow : 97 ≤ c.val.toNat := h.1
    have hhigh : c.val.toNat ≤ 90 := h'.2
    omega

/-- Nothing is trimmed just if both ends stay. -/
theorem trim_eq_self_iff {p : Char → Bool} {cs : List Char} :
    (cs.dropWhile p).rdropWhile p = cs ↔
      ∀ hne : cs ≠ [], p (cs.head hne) = false ∧ p (cs.getLast hne) = false := by
  constructor
  · intro h hne
    have hdrop : cs.dropWhile p = cs := by
      refine (List.dropWhile_suffix p).eq_of_length_le ?_
      exact (congrArg List.length h).symm.le.trans (List.rdropWhile_prefix p _).length_le
    rw [hdrop] at h
    rw [← Bool.not_eq_true, ← Bool.not_eq_true]
    refine ⟨?_, List.rdropWhile_eq_self_iff.mp h hne⟩
    rw [← List.getElem_zero (List.length_pos_iff.mpr hne)]
    exact List.dropWhile_eq_self_iff.mp hdrop _
  · intro h
    rw [List.dropWhile_eq_self_iff.mpr, List.rdropWhile_eq_self_iff.mpr]
    · exact fun hne => by simp [(h hne).2]
    · intro hpos
      rw [List.getElem_zero, (h (List.length_pos_iff.mp hpos)).1]
      exact Bool.false_ne_true

theorem trimList_trimList (cs : List Char) : trimList (trimList cs) = trimList cs := by
  unfold trimList
  refine trim_eq_self_iff.mpr fun hne => ?_
  rw [(List.rdropWhile_prefix isSpace _).head hne]
  exact ⟨List.head_dropWhile_not isSpace _, by simpa using List.rdropWhile_last_not isSpace _ hne⟩

/-- Trimming twice is trimming once. -/
@[simp] theorem trimSpace_trimSpace (s : String) : trimSpace (trimSpace s) = trimSpace s := by
  unfold trimSpace
  rw [String.toList_ofList, trimList_trimList]

variable {s : String}

/-- Text without white space is trimmed. -/
theorem trimSpace_of_no_space (h : ∀ c ∈ s.toList, isSpace c = false) :
    trimSpace s = s := by
  unfold trimSpace trimList
  rw [trim_eq_self_iff.mpr fun hne => ⟨h _ (List.head_mem hne), h _ (List.getLast_mem hne)⟩,
    String.ofList_toList]

/-- Trimming cuts at both ends only. -/
theorem trimList_sub (cs : List Char) : trimList cs <:+: cs :=
  (List.rdropWhile_prefix isSpace _).isInfix.trans (List.dropWhile_suffix isSpace).isInfix

/-- Text that starts with a letter is not trimmed away. -/
theorem trimSpace_ne_empty {c : Char} {cs : List Char} (hs : s.toList = c :: cs)
    (hc : isSpace c = false) : trimSpace s ≠ "" := by
  intro hempty
  have htrim : trimList (c :: cs) = [] := by
    have := congrArg String.toList hempty
    rwa [trimSpace, String.toList_ofList, hs] at this
  unfold trimList at htrim
  rw [List.dropWhile_cons_of_neg (by simp [hc]), List.rdropWhile_eq_nil_iff] at htrim
  exact Bool.false_ne_true (hc.symm.trans (htrim c List.mem_cons_self))

/-- Text that starts with a letter and ends in a trimmed, non-empty string is trimmed. -/
theorem trimSpace_append {a b : String} {c : Char} {as : List Char} (ha : a.toList = c :: as)
    (hc : isSpace c = false) (hb : trimSpace b = b) (hne : b ≠ "") :
    trimSpace (a ++ b) = a ++ b := by
  have hlist := congrArg String.toList hb
  rw [trimSpace, String.toList_ofList] at hlist
  have hbne : b.toList ≠ [] := fun hnil => hne (String.toList_inj.mp hnil)
  have htrim : trimList (a ++ b).toList = (a ++ b).toList := by
    refine trim_eq_self_iff.mpr fun hab => ?_
    simp only [String.toList_append, ha, List.cons_append, List.head_cons]
    refine ⟨hc, ?_⟩
    rw [List.getLast_cons (by simp [hbne]), List.getLast_append_of_ne_nil _ hbne]
    exact (trim_eq_self_iff.mp hlist hbne).2
  rw [trimSpace, htrim, String.ofList_toList]

/-- Lower case text stays as it is. -/
theorem CaseMap.toLower_of_isLower (m : CaseMap) (h : ∀ c ∈ s.toList, c.isLower = true) :
    m.toLower s = s := by
  unfold CaseMap.toLower
  rw [List.map_congr_left (fun c hc => m.lower_isLower c (h c hc)), List.map_id',
    String.ofList_toList]

/-- Lower casing a trimmed lower case string does nothing. -/
theorem CaseMap.toLower_trimSpace_toLower (m : CaseMap) (s : String) :
    m.toLower (trimSpace (m.toLower s)) = trimSpace (m.toLower s) := by
  unfold CaseMap.toLower trimSpace
  simp only [String.toList_ofList]
  have hfixed : ∀ c ∈ trimList (s.toList.map m.lower), m.lower c = c := by
    intro c hc
    obtain ⟨d, -, rfl⟩ := List.mem_map.mp ((trimList_sub _).subset hc)
    exact m.lower_lower d
  rw [List.map_congr_left hfixed, List.map_id']

/-- What `unicode.ToLower` does with ASCII letters and white space. -/
structure CaseMap.Standard (m : CaseMap) : Prop where
  ascii : ∀ c : Char, c.toNat < 128 → m.lower c = c.toLower
  space : ∀ c, isSpace (m.lower c) = isSpace c

theorem CaseMap.Standard.trimSpace_toLower {m : CaseMap} (hm : m.Standard) (s : String) :
    trimSpace (m.toLower s) = m.toLower (trimSpace s) := by
  have hspace : isSpace ∘ m.lower = isSpace := funext hm.space
  simp [trimSpace, CaseMap.toLower, trimList, List.rdropWhile, List.dropWhile_map, ← List.map_reverse,
    hspace]

theorem CaseMap.ascii_standard : CaseMap.ascii.Standard := by
  have hletter : ∀ c : Char, 65 ≤ c.toNat → c.toNat ≤ 122 → isSpace c = false := by
    intro c hlow hhigh
    simp [isSpace]
    omega
  refine ⟨fun _ _ => rfl, fun c => ?_⟩
  change isSpace c.toLower = isSpace c
  unfold Char.toLower
  split
  · rename_i h
    simp only [ge_iff_le, UInt32.le_iff_toNat_le] at h
    have hlow : 65 ≤ c.toNat := h.1
    have hhigh : c.toNat ≤ 90 := h.2
    have hshifted : (c.val + ('a'.val - 'A'.val)).toNat = c.toNat + 32 :=
      (UInt32.toNat_add _ _).trans (Nat.mod_eq_of_lt (by change c.toNat + 32 < _; omega))
    rw [hletter c hlow (by omega)]
    exact hletter _ (le_of_le_of_eq (by omega) hshifted.symm) (le_of_eq_of_le hshifted (by omega))
  · rfl

end Text
