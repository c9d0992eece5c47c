import Onlyboxes.Console.TaskOwnerScope

/-!
# The headers of an upload

`filterTerminalResourceUploadHeaders` assigns the values of the allowed headers to their
canonical names in the order in which Go goes over the map, which is unspecified. Two
spellings of one name with different values make the result depend on it.

## Key results

- `upload_filter_exact_iff`: when the filter is a function of the map
-/

namespace Onlyboxes.Console

open Text

variable (m : CaseMap)

/-- The name that a header is kept under, if it is allowed. -/
def uploadHeaderName (name : String) : Option String :=
  let normalizedName := m.toLower (trimSpace name)
  if isAllowedTerminalResourceUploadHeader normalizedName then
    some (canonicalTerminalResourceUploadHeaderName normalizedName)
  else none

/-- The canonical names of allowed headers. -/
def CanonicalUploadHeader (name : String) : Prop :=
  name = "Content-Type" ∨ name = "Content-MD5" ∨
    hasPrefix name "x-amz-" = true ∧ trimSpace name = name ∧ m.toLower name = name

/-- The filter is a function of the map, not of the order of its entries, keeps every allowed
    header and no other, and changes nothing the second time. -/
structure UploadFilterExact (headers : GoMap String String) : Prop where
  ordered : ∀ headers' : GoMap String String, headers'.entries.Perm headers.entries → ∀ name,
    (filterTerminalResourceUploadHeaders m headers').lookup name =
      (filterTerminalResourceUploadHeaders m headers).lookup name
  canonical : ∀ name ∈ filterTerminalResourceUploadHeaders m headers, CanonicalUploadHeader m name
  kept : ∀ name value name', headers.lookup name = some value → uploadHeaderName m name = some name' →
    (filterTerminalResourceUploadHeaders m headers).lookup name' = some value
  again : ∀ filtered : GoMap String String,
    filtered.entries.Perm (filterTerminalResourceUploadHeaders m headers).entries → ∀ name,
    (filterTerminalResourceUploadHeaders m filtered).lookup name =
      (filterTerminalResourceUploadHeaders m headers).lookup name

/-- Allowed headers with the same canonical name have the same value. -/
def UploadHeadersAgree (headers : GoMap String String) : Prop :=
  ∀ name₁ name₂ name value₁ value₂, headers.lookup name₁ = some value₁ →
    headers.lookup name₂ = some value₂ → uploadHeaderName m name₁ = some name →
    uploadHeaderName m name₂ = some name → value₁ = value₂

variable {m} {headers headers' : GoMap String String} {name name' value : String}

/-- The assignments of a pass. -/
def uploadHeaderWrites (m : CaseMap) (headers : GoMap String String) : List (String × String) :=
  headers.entries.filterMap fun e => (uploadHeaderName m e.1).map (·, e.2)

theorem filter_eq_assign (headers : GoMap String String) :
    filterTerminalResourceUploadHeaders m headers = .assign (uploadHeaderWrites m headers) := by
  unfold filterTerminalResourceUploadHeaders AList.assign uploadHeaderWrites
  rw [List.foldl_filterMap]
  refine List.foldl_ext _ _ _ fun filtered e _ => ?_
  unfold uploadHeaderName
  dsimp only
  generalize m.toLower (trimSpace e.1) = normalizedName
  cases hallowed : isAllowedTerminalResourceUploadHeader normalizedName with
  | false => simp
  | true =>
    rw [if_neg (by rintro rfl; revert hallowed; decide)]
    simp

theorem mem_uploadHeaderWrites : (name', value) ∈ uploadHeaderWrites m headers ↔
    ∃ name, headers.lookup name = some value ∧ uploadHeaderName m name = some name' := by
  simp only [uploadHeaderWrites, List.mem_filterMap, Option.map_eq_some_iff, Prod.mk.injEq]
  constructor
  · rintro ⟨⟨name, _⟩, he, _, hname, rfl, rfl⟩
    exact ⟨name, AList.mem_lookup_iff.mpr he, hname⟩
  · rintro ⟨name, hlookup, hname⟩
    exact ⟨⟨name, value⟩, AList.mem_lookup_iff.mp hlookup, name', hname, rfl, rfl⟩

section

variable (hm : m.Standard)

include hm

/-- Headers are kept under canonical names. -/
theorem canonical_of_uploadHeaderName (h : uploadHeaderName m name = some name') :
    CanonicalUploadHeader m name' := by
  unfold uploadHeaderName at h
  dsimp only at h
  split at h
  · rename_i hallowed
    obtain rfl := Option.some.inj h
    unfold canonicalTerminalResourceUploadHeaderName
    split
    · exact .inl rfl
    · rename_i htype
      split
      · exact .inr (.inl rfl)
      · rename_i hmd5
        simp only [isAllowedTerminalResourceUploadHeader, htype, hmd5, decide_false, Bool.or_false]
          at hallowed
        refine .inr (.inr ⟨hallowed, ?_, ?_⟩)
        · rw [hm.trimSpace_toLower, trimSpace_trimSpace]
        · rw [← hm.trimSpace_toLower]
          exact m.toLower_trimSpace_toLower name
  · nomatch h

/-- Canonical names stay. -/
theorem CanonicalUploadHeader.uploadHeaderName (h : CanonicalUploadHeader m name) :
    uploadHeaderName m name = some name := by
  have hascii : ∀ s : String, (∀ c ∈ s.toList, c.toNat < 128) →
      m.toLower s = String.ofList (s.toList.map Char.toLower) := fun s hs => by
    rw [CaseMap.toLower, List.map_congr_left fun c hc => hm.ascii c (hs c hc)]
  unfold Console.uploadHeaderName
  rcases h with rfl | rfl | ⟨hamz, htrim, hlower⟩
  · rw [show trimSpace "Content-Type" = "Content-Type" by decide, hascii _ (by simp)]
    decide
  · rw [show trimSpace "Content-MD5" = "Content-MD5" by decide, hascii _ (by simp)]
    decide
  · unfold isAllowedTerminalResourceUploadHeader canonicalTerminalResourceUploadHeaderName
    dsimp only
    rw [htrim, hlower]
    rw [hamz, Bool.true_or, Bool.true_or, if_pos rfl,
      if_neg (by rintro rfl; revert hamz; decide), if_neg (by rintro rfl; revert hamz; decide)]

omit hm in
/-- What the filter leaves, whatever the order. -/
theorem lookup_filter_iff (h : UploadHeadersAgree m headers)
    (hperm : headers'.entries.Perm headers.entries) :
    (filterTerminalResourceUploadHeaders m headers').lookup name' = some value ↔
      ∃ name, headers.lookup name = some value ∧ uploadHeaderName m name = some name' := by
  have hlookup : ∀ name, headers'.lookup name = headers.lookup name := fun name =>
    AList.perm_lookup hperm
  rw [filter_eq_assign, AList.lookup_assign_iff, mem_uploadHeaderWrites]
  · simp only [hlookup]
  · intro v v' hv hv'
    obtain ⟨name₁, h₁, hname₁⟩ := mem_uploadHeaderWrites.mp hv
    obtain ⟨name₂, h₂, hname₂⟩ := mem_uploadHeaderWrites.mp hv'
    exact h name₁ name₂ name' v v' (hlookup _ ▸ h₁) (hlookup _ ▸ h₂) hname₁ hname₂

/-- Headers with canonical names all stay. -/
theorem lookup_filter_of_canonical (h : ∀ name ∈ headers, CanonicalUploadHeader m name) (name : String) :
    (filterTerminalResourceUploadHeaders m headers).lookup name = headers.lookup name := by
  have hself : ∀ {name value name'}, headers.lookup name = some value →
      uploadHeaderName m name = some name' → name = name' := fun hlookup hname =>
    Option.some.inj (((h _ (AList.mem_iff_lookup_eq_some.mpr ⟨_, hlookup⟩)).uploadHeaderName hm).symm.trans
      hname)
  refine Option.ext fun value => (lookup_filter_iff ?_ (.refl _)).trans ⟨?_, fun hlookup => ?_⟩
  · intro name₁ name₂ name value₁ value₂ h₁ h₂ hname₁ hname₂
    obtain rfl := hself h₁ hname₁
    obtain rfl := hself h₂ hname₂
    exact Option.mem_unique h₁ h₂
  · rintro ⟨name₀, hlookup, hname⟩
    exact hself hlookup hname ▸ hlookup
  · exact ⟨name, hlookup, (h name (AList.mem_iff_lookup_eq_some.mpr ⟨_, hlookup⟩)).uploadHeaderName hm⟩

/-- The filter is well defined just if no two allowed headers with different values have
    the same canonical name. -/
theorem upload_filter_exact_iff (headers : GoMap String String) :
    UploadFilterExact m headers ↔ UploadHeadersAgree m headers := by
  constructor
  · intro h name₁ name₂ name value₁ value₂ h₁ h₂ hname₁ hname₂
    exact Option.some.inj ((h.kept name₁ value₁ name h₁ hname₁).symm.trans
      (h.kept name₂ value₂ name h₂ hname₂))
  · intro h
    have hcanonical : ∀ name ∈ filterTerminalResourceUploadHeaders m headers,
        CanonicalUploadHeader m name := by
      intro name hmem
      obtain ⟨value, hlookup⟩ := AList.mem_iff_lookup_eq_some.mp hmem
      obtain ⟨name₀, -, hname⟩ := (lookup_filter_iff h (.refl _)).mp hlookup
      exact canonical_of_uploadHeaderName hm hname
    refine ⟨fun headers' hperm name => Option.ext fun value => ?_, hcanonical, fun name value name' hlookup hname => ?_,
      fun filtered hperm name => ?_⟩
    · exact (lookup_filter_iff h hperm).trans (lookup_filter_iff h (.refl _)).symm
    · exact (lookup_filter_iff h (.refl _)).mpr ⟨name, hlookup, hname⟩
    · rw [lookup_filter_of_canonical hm fun name hmem => hcanonical name ?_]
      · exact AList.perm_lookup hperm
      · exact (AList.mem_of_perm hperm).mp hmem

end

/-- Two spellings of one name: which value is kept depends on the order. -/
theorem upload_filter_spelled_twice : ¬ UploadFilterExact .ascii
    ((∅ : GoMap String String).insert "content-type" "a" |>.insert "Content-Type" "b") := by
  intro h
  have := h.kept "Content-Type" "b" "Content-Type" (by decide) (by decide)
  revert this
  decide

theorem upload_filter_exact_plain :
    UploadFilterExact .ascii ((∅ : GoMap String String).insert " content-type" "a") := by
  refine (upload_filter_exact_iff CaseMap.ascii_standard _).mpr ?_
  have hvalue : ∀ {name value : String},
      ((∅ : GoMap String String).insert " content-type" "a").lookup name = some value → value = "a" := by
    intro name value h
    rcases AList.lookup_insert_cases h with ⟨-, hvalue⟩ | ⟨-, h⟩
    · exact hvalue
    · nomatch h
  intro _ _ _ _ _ h₁ h₂ _ _
  exact (hvalue h₁).trans (hvalue h₂).symm

end Onlyboxes.Console
