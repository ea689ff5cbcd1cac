import RoboLake.Infrastructure.MultipartStorage
import RoboLake.Registry.Reachable

/-! # Listings of provider parts

What the page loop returns against a provider that keeps its word, what it can never
return, and when a provider can keep it asking.
-/

namespace RoboLake

open Foundation

variable [Platform] {objectKey : String}

/-! ## Pages -/

/-- A well-formed page: its parts, whether more follow, and where they follow. -/
def IsPage (objectKey : String) (response : ProviderResponse) (parts : List ListedProviderPart)
    (truncated : Bool) (next : ProviderValue) : Prop :=
  ∃ fields raws, response = .returned (.mapping fields) ∧
    ProviderValue.get fields "Parts" (.list []) = .list raws ∧
    raws.mapM (parseListedPart objectKey) = .ok parts ∧
    ProviderValue.get fields "IsTruncated" .none = .bool truncated ∧
    ProviderValue.get fields "NextPartNumberMarker" .none = next

theorem observeParts_ok {raws : List ProviderValue} {observed result : List ListedProviderPart}
    (hdistinct : (observed.map ListedProviderPart.partNumber).Nodup) :
    observeParts objectKey raws observed = .ok result ↔
      ∃ parts, raws.mapM (parseListedPart objectKey) = .ok parts ∧ result = observed ++ parts ∧
        ((observed ++ parts).map ListedProviderPart.partNumber).Nodup := by
  induction raws generalizing observed with
  | nil =>
      simp only [observeParts, List.mapM_nil]
      constructor
      · intro h
        cases h
        exact ⟨[], rfl, (List.append_nil _).symm, by rwa [List.append_nil]⟩
      · intro h
        obtain ⟨parts, hparts, hresult, _⟩ := h
        cases hparts
        rw [hresult, List.append_nil]
  | cons raw raws ih =>
      rw [observeParts]
      cases hraw : parseListedPart objectKey raw with
      | error failure =>
          constructor
          · intro h
            cases h
          · intro h
            obtain ⟨parts, hparts, _⟩ := h
            obtain ⟨part, _, hpart, _⟩ := Except.mapM_cons_ok.mp hparts
            rw [hraw] at hpart
            cases hpart
      | ok part =>
          change (if part.partNumber ∈ observed.map ListedProviderPart.partNumber then _
            else observeParts objectKey raws (observed ++ [part])) = _ ↔ _
          by_cases hseen : part.partNumber ∈ observed.map ListedProviderPart.partNumber
          · rw [if_pos hseen]
            constructor
            · intro h
              cases h
            · intro h
              obtain ⟨parts, hparts, _, hnodup⟩ := h
              obtain ⟨part', rest, hpart, _, rfl⟩ := Except.mapM_cons_ok.mp hparts
              rw [hraw] at hpart
              cases hpart
              rw [List.map_append, List.nodup_append] at hnodup
              exact absurd rfl (hnodup.2.2 _ hseen _ List.mem_cons_self)
          · have hmore : ((observed ++ [part]).map ListedProviderPart.partNumber).Nodup := by
              rw [List.map_append, List.nodup_append]
              refine ⟨hdistinct, List.nodup_singleton _, ?_⟩
              intro x hx y hy hxy
              rw [List.mem_singleton.mp hy] at hxy
              exact hseen (hxy ▸ hx)
            rw [if_neg hseen, ih hmore]
            constructor
            · intro h
              obtain ⟨parts, hparts, hresult, hnodup⟩ := h
              rw [List.append_assoc] at hresult hnodup
              refine ⟨part :: parts, ?_, hresult, hnodup⟩
              exact Except.mapM_cons_ok.mpr ⟨part, parts, hraw, hparts, rfl⟩
            · intro h
              obtain ⟨parts, hparts, hresult, hnodup⟩ := h
              obtain ⟨part', rest, hpart, hrest, rfl⟩ := Except.mapM_cons_ok.mp hparts
              rw [hraw] at hpart
              cases hpart
              refine ⟨rest, hrest, ?_, ?_⟩
              · rw [hresult, List.append_assoc]
                rfl
              · rw [List.append_assoc]
                exact hnodup

theorem readPage_ok {response : ProviderResponse} {l : PartListing}
    {observed : List ListedProviderPart} {next : Option Int}
    (hdistinct : (l.observed.map ListedProviderPart.partNumber).Nodup) :
    readPage objectKey response l = .ok (observed, next) ↔
      ∃ parts truncated value, IsPage objectKey response parts truncated value ∧
        observed = l.observed ++ parts ∧
        (observed.map ListedProviderPart.partNumber).Nodup ∧
        ((truncated = false ∧ next = none) ∨
          truncated = true ∧ ∃ marker, next = some marker ∧ value = .int marker ∧ 0 < marker ∧
            marker ∉ l.seenMarkers ∧ ∀ m ∈ l.marker, m < marker) := by
  constructor
  · intro h
    unfold readPage at h
    cases response with
    | clientError code status =>
        simp only at h
        split at h
        · cases h
        · cases h
    | botoCoreError => cases h
    | raised failure => cases h
    | returned value =>
        cases value with
        | mapping fields =>
            simp only at h
            split at h
            · rename_i raws truncated hparts htruncated
              obtain ⟨result, hresult, h⟩ := Except.bind_ok.mp h
              obtain ⟨parts, hmap, hsum, hnodup⟩ := (observeParts_ok hdistinct).mp hresult
              have hpage := fun value hvalue =>
                (⟨fields, raws, rfl, hparts, hmap, htruncated, hvalue⟩ :
                  IsPage objectKey (.returned (.mapping fields)) parts truncated value)
              cases truncated with
              | false =>
                  cases h
                  exact ⟨parts, false, _, hpage _ rfl, hsum, hsum ▸ hnodup, .inl ⟨rfl, rfl⟩⟩
              | true =>
                  obtain ⟨marker, hmarker, h⟩ := Except.bind_ok.mp h
                  cases h
                  unfold nextMarker at hmarker
                  split at hmarker
                  · rename_i n hn
                    split at hmarker
                    · cases hmarker
                    · rename_i hgood
                      cases hmarker
                      simp only [not_or, not_exists, not_and, not_le] at hgood
                      exact ⟨parts, true, _, hpage _ hn, hsum, hsum ▸ hnodup,
                        .inr ⟨rfl, marker, rfl, rfl, hgood⟩⟩
                  · cases hmarker
            · cases h
        | none => cases h
        | bool b => cases h
        | int n => cases h
        | str s => cases h
        | datetime t => cases h
        | list items => cases h
        | other => cases h
  · intro h
    obtain ⟨parts, truncated, value, ⟨fields, raws, rfl, hparts, hmap, htruncated, hvalue⟩, rfl,
      hnodup, hnext⟩ := h
    have hobserved : observeParts objectKey raws l.observed = .ok (l.observed ++ parts) :=
      (observeParts_ok hdistinct).mpr ⟨parts, hmap, rfl, hnodup⟩
    unfold readPage
    simp only [hparts, htruncated]
    refine Except.bind_ok.mpr ⟨_, hobserved, ?_⟩
    rcases hnext with ⟨rfl, rfl⟩ | ⟨rfl, marker, rfl, rfl, hpos, hseen, habove⟩
    · rfl
    · have hgood : ¬(marker ≤ 0 ∨ marker ∈ l.seenMarkers ∨ ∃ m ∈ l.marker, marker ≤ m) := by
        simp only [not_or, not_exists, not_and, not_le]
        exact ⟨hpos, hseen, habove⟩
      rw [if_pos rfl, hvalue]
      refine Except.bind_ok.mpr ⟨marker, ?_, rfl⟩
      rw [nextMarker, if_neg hgood]

/-! ## Turns of the loop -/

def IsTruncatedPage (objectKey : String) (response : ProviderResponse)
    (page : List ListedProviderPart × Int) : Prop :=
  IsPage objectKey response page.1 true (.int page.2) ∧ 0 < page.2

variable {provider : ListPartsProvider} {request : Nat} {l l' : PartListing}

theorem listPartsTurn_again (hdistinct : (l.observed.map ListedProviderPart.partNumber).Nodup) :
    listPartsTurn objectKey provider request l = .again l' ↔
      ∃ parts marker, IsTruncatedPage objectKey (provider request l.marker) (parts, marker) ∧
        ((l.observed ++ parts).map ListedProviderPart.partNumber).Nodup ∧
        marker ∉ l.seenMarkers ∧ (∀ m ∈ l.marker, m < marker) ∧
        l' = ⟨some marker, l.seenMarkers ++ [marker], l.observed ++ parts⟩ := by
  unfold listPartsTurn
  constructor
  · intro h
    split at h
    · cases h
    · cases h
    · rename_i observed next hread
      cases h
      obtain ⟨parts, truncated, value, hpage, rfl, hnodup, hnext⟩ :=
        (readPage_ok hdistinct).mp hread
      rcases hnext with ⟨_, hnone⟩ | ⟨rfl, marker, hmarker, rfl, hpos, hseen, habove⟩
      · cases hnone
      · cases hmarker
        exact ⟨parts, _, ⟨hpage, hpos⟩, hnodup, hseen, habove, rfl⟩
  · intro h
    obtain ⟨parts, marker, ⟨hpage, hpos⟩, hnodup, hseen, habove, rfl⟩ := h
    have hread : readPage objectKey (provider request l.marker) l =
        .ok (l.observed ++ parts, some marker) :=
      (readPage_ok hdistinct).mpr ⟨parts, true, _, hpage, rfl, hnodup,
        .inr ⟨rfl, marker, rfl, rfl, hpos, hseen, habove⟩⟩
    rw [hread]

theorem listPartsTurn_answer_ok {result : List ListedProviderPart}
    (hdistinct : (l.observed.map ListedProviderPart.partNumber).Nodup) :
    listPartsTurn objectKey provider request l = .answer (.ok result) ↔
      ∃ parts value, IsPage objectKey (provider request l.marker) parts false value ∧
        ((l.observed ++ parts).map ListedProviderPart.partNumber).Nodup ∧
        result = sortedParts (l.observed ++ parts) := by
  unfold listPartsTurn
  constructor
  · intro h
    split at h
    · cases h
    · rename_i observed hread
      cases h
      obtain ⟨parts, truncated, value, hpage, rfl, hnodup, hnext⟩ :=
        (readPage_ok hdistinct).mp hread
      rcases hnext with ⟨rfl, _⟩ | ⟨_, _, hmarker, _⟩
      · exact ⟨parts, value, hpage, hnodup, rfl⟩
      · cases hmarker
    · cases h
  · intro h
    obtain ⟨parts, value, hpage, hnodup, rfl⟩ := h
    have hread : readPage objectKey (provider request l.marker) l =
        .ok (l.observed ++ parts, none) :=
      (readPage_ok hdistinct).mpr ⟨parts, false, value, hpage, rfl, hnodup, .inl ⟨rfl, rfl⟩⟩
    rw [hread]

/-! ## Providers that keep the loop asking -/

def lastMarker (pages : List (List ListedProviderPart × Int)) : Option Int :=
  (pages.map Prod.snd).getLast?

/-- The responses to the first requests are truncated pages with rising markers, and no part
number occurs on two of them. -/
structure Paged (objectKey : String) (provider : ListPartsProvider)
    (pages : List (List ListedProviderPart × Int)) : Prop where
  truncated : ∀ (i : Nat) (h : i < pages.length),
    IsTruncatedPage objectKey (provider i (lastMarker (pages.take i))) pages[i]
  rising : (pages.map Prod.snd).Pairwise (· < ·)
  distinct : ((pages.flatMap Prod.fst).map ListedProviderPart.partNumber).Nodup

def listingOf (pages : List (List ListedProviderPart × Int)) : PartListing :=
  ⟨lastMarker pages, pages.map Prod.snd, pages.flatMap Prod.fst⟩

omit [Platform] in
theorem lastMarker_append (pages : List (List ListedProviderPart × Int))
    (page : List ListedProviderPart × Int) : lastMarker (pages ++ [page]) = some page.2 := by
  simp [lastMarker]

omit [Platform] in
theorem listingOf_append (pages : List (List ListedProviderPart × Int))
    (page : List ListedProviderPart × Int) :
    listingOf (pages ++ [page]) =
      ⟨some page.2, (listingOf pages).seenMarkers ++ [page.2],
        (listingOf pages).observed ++ page.1⟩ := by
  simp [listingOf, lastMarker_append]

omit [Platform] in
theorem le_lastMarker {pages : List (List ListedProviderPart × Int)} {m : Int}
    (h : (pages.map Prod.snd).Pairwise (· < ·)) (hm : m ∈ pages.map Prod.snd) :
    ∃ last ∈ lastMarker pages, m ≤ last := by
  have hne : pages.map Prod.snd ≠ [] := List.ne_nil_of_mem hm
  refine ⟨(pages.map Prod.snd).getLast hne, List.getLast?_eq_getLast_of_ne_nil hne, ?_⟩
  have hsplit := List.dropLast_append_getLast hne
  rw [← hsplit] at hm h
  rcases List.mem_append.mp hm with hm | hm
  · exact ((List.pairwise_append.mp h).2.2 m hm _ (List.mem_singleton_self _)).le
  · exact (List.mem_singleton.mp hm).le

theorem paged_append {pages : List (List ListedProviderPart × Int)}
    {page : List ListedProviderPart × Int} :
    Paged objectKey provider (pages ++ [page]) ↔
      Paged objectKey provider pages ∧
        IsTruncatedPage objectKey (provider pages.length (lastMarker pages)) page ∧
        (((pages.flatMap Prod.fst) ++ page.1).map ListedProviderPart.partNumber).Nodup ∧
        ∀ m ∈ lastMarker pages, m < page.2 := by
  constructor
  · intro h
    have hrising := h.rising
    rw [List.map_append, List.pairwise_append] at hrising
    have hdistinct := h.distinct
    rw [List.flatMap_append, List.flatMap_singleton] at hdistinct
    have hfront : ((pages.flatMap Prod.fst).map ListedProviderPart.partNumber).Nodup := by
      rw [List.map_append] at hdistinct
      exact hdistinct.of_append_left
    refine ⟨⟨?_, hrising.1, hfront⟩, ?_, hdistinct, ?_⟩
    · intro i hi
      have hpage := h.truncated i (by rw [List.length_append]; omega)
      rw [List.take_append_of_le_length hi.le, List.getElem_append_left hi] at hpage
      exact hpage
    · have hpage := h.truncated pages.length (by simp)
      rw [List.take_append_of_le_length le_rfl, List.take_length,
        List.getElem_append_right le_rfl] at hpage
      simpa using hpage
    · intro m hm
      exact hrising.2.2 m (List.mem_of_getLast? hm) page.2 (List.mem_singleton_self _)
  · intro h
    obtain ⟨h, hpage, hdistinct, habove⟩ := h
    refine ⟨?_, ?_, ?_⟩
    · intro i hi
      rcases Nat.lt_or_ge i pages.length with hlt | hge
      · rw [List.take_append_of_le_length hlt.le, List.getElem_append_left hlt]
        exact h.truncated i hlt
      · have hlast : i = pages.length := by
          rw [List.length_append, List.length_singleton] at hi
          omega
        subst hlast
        rw [List.take_append_of_le_length le_rfl, List.take_length,
          List.getElem_append_right le_rfl]
        simpa using hpage
    · rw [List.map_append, List.pairwise_append]
      refine ⟨h.rising, List.pairwise_singleton _ _, ?_⟩
      intro m hm n hn
      obtain ⟨last, hlast, hle⟩ := le_lastMarker h.rising hm
      rw [List.mem_singleton.mp hn]
      exact lt_of_le_of_lt hle (habove last hlast)
    · rw [List.flatMap_append, List.flatMap_singleton]
      exact hdistinct

/-- The loop asks again after exactly the pages that keep it asking. -/
theorem goes_iff {n : Nat} :
    Loop.Goes (listPartsTurn objectKey provider) 0 {} n l ↔
      ∃ pages, pages.length = n ∧ Paged objectKey provider pages ∧ l = listingOf pages := by
  constructor
  · intro h
    induction h with
    | refl =>
        refine ⟨[], rfl, ⟨?_, List.Pairwise.nil, List.nodup_nil⟩, rfl⟩
        intro i hi
        exact absurd hi (Nat.not_lt_zero i)
    | step _ hturn ih =>
        obtain ⟨pages, rfl, hpaged, rfl⟩ := ih
        rw [Nat.zero_add] at hturn
        obtain ⟨parts, marker, hpage, hnodup, _, habove, rfl⟩ :=
          (listPartsTurn_again hpaged.distinct).mp hturn
        refine ⟨pages ++ [(parts, marker)], List.length_append, ?_,
          (listingOf_append pages (parts, marker)).symm⟩
        exact paged_append.mpr ⟨hpaged, hpage, hnodup, habove⟩
  · intro h
    obtain ⟨pages, rfl, hpaged, rfl⟩ := h
    induction pages using List.reverseRecOn with
    | nil => exact .refl
    | append_singleton pages page ih =>
        obtain ⟨hfront, hpage, hnodup, habove⟩ := paged_append.mp hpaged
        rw [List.length_append, List.length_singleton]
        refine (ih hfront).step ?_
        rw [Nat.zero_add, listingOf_append]
        refine (listPartsTurn_again hfront.distinct).mpr
          ⟨page.1, page.2, hpage, hnodup, ?_, habove, rfl⟩
        intro hseen
        obtain ⟨last, hlast, hle⟩ := le_lastMarker hfront.rising hseen
        exact absurd (habove last hlast) (not_lt.mpr hle)

theorem Paged.length_le_maxParts {pages : List (List ListedProviderPart × Int)}
    (h : Paged objectKey provider pages) (hparts : ∀ page ∈ pages, page.1 ≠ []) :
    pages.length ≤ maxParts := by
  have hpages : pages.length ≤ (pages.flatMap Prod.fst).length := by
    rw [List.length_flatMap]
    calc pages.length = (pages.map fun _ => 1).sum := by simp
      _ ≤ (pages.map fun page => page.1.length).sum := by
          apply List.sum_le_sum
          intro page hpage
          exact List.length_pos_iff.mpr (hparts page hpage)
  have hsubset : (pages.flatMap Prod.fst).map ListedProviderPart.partNumber ⊆
      List.range' 1 maxParts := by
    intro n hn
    obtain ⟨part, _, rfl⟩ := List.mem_map.mp hn
    have hpos := part.number_pos
    have hle := part.number_le
    rw [List.mem_range'_1]
    omega
  have hnumbers := (h.distinct.subperm hsubset).length_le
  rw [List.length_map, List.length_range'] at hnumbers
  exact hpages.trans hnumbers

omit [Platform] in
theorem exists_length_le_of_rising {xs : List Int} (hne : xs ≠ []) (hpos : ∀ x ∈ xs, 0 < x)
    (h : xs.Pairwise (· < ·)) : ∃ x ∈ xs, (xs.length : Int) ≤ x := by
  induction xs using List.reverseRecOn with
  | nil => exact absurd rfl hne
  | append_singleton xs x ih =>
      refine ⟨x, by simp, ?_⟩
      rw [List.length_append, List.length_singleton]
      by_cases hempty : xs = []
      · subst hempty
        exact hpos x (by simp)
      · rw [List.pairwise_append] at h
        obtain ⟨y, hy, hle⟩ := ih hempty (fun y hy => hpos y (by simp [hy])) h.1
        have hlt := h.2.2 y hy x (List.mem_singleton_self x)
        push_cast
        omega

theorem Paged.exists_marker {pages : List (List ListedProviderPart × Int)}
    (h : Paged objectKey provider pages) (hlength : maxParts < pages.length) :
    ∃ page ∈ pages, (maxParts : Int) < page.2 := by
  have hne : pages.map Prod.snd ≠ [] := by
    intro hempty
    rw [List.map_eq_nil_iff.mp hempty] at hlength
    exact Nat.not_lt_zero _ hlength
  have hpos : ∀ x ∈ pages.map Prod.snd, 0 < x := by
    intro x hx
    obtain ⟨page, hpage, rfl⟩ := List.mem_map.mp hx
    obtain ⟨i, hi, rfl⟩ := List.getElem_of_mem hpage
    exact (h.truncated i hi).2
  obtain ⟨x, hx, hle⟩ := exists_length_le_of_rising hne hpos h.rising
  obtain ⟨page, hpage, rfl⟩ := List.mem_map.mp hx
  rw [List.length_map] at hle
  exact ⟨page, hpage, by omega⟩

/-- A listing ends within one request more than there are part numbers exactly when those
responses are not all truncated pages with rising markers and fresh part numbers. Responses that
are so hold a page without parts and a marker that is no part number. -/
theorem listing_ends_iff (objectKey : String) (provider : ListPartsProvider) :
    ((listParts objectKey provider (maxParts + 1)).isSome = true ↔
      ¬∃ pages, pages.length = maxParts + 1 ∧ Paged objectKey provider pages) ∧
    ∀ pages, pages.length = maxParts + 1 → Paged objectKey provider pages →
      (∃ page ∈ pages, page.1 = []) ∧ ∃ page ∈ pages, (maxParts : Int) < page.2 := by
  constructor
  · rw [← not_iff_not, not_not, Bool.not_eq_true, Option.isSome_eq_false_iff,
      Option.isNone_iff_eq_none, listParts, Loop.run_eq_none_iff]
    constructor
    · intro h
      obtain ⟨l, hgoes⟩ := h
      obtain ⟨pages, hlength, hpaged, _⟩ := goes_iff.mp hgoes
      exact ⟨pages, hlength, hpaged⟩
    · intro h
      obtain ⟨pages, hlength, hpaged⟩ := h
      exact ⟨listingOf pages, goes_iff.mpr ⟨pages, hlength, hpaged, rfl⟩⟩
  · intro pages hlength hpaged
    have hmany : maxParts < pages.length := by omega
    refine ⟨?_, hpaged.exists_marker hmany⟩
    by_contra hfull
    have hparts : ∀ page ∈ pages, page.1 ≠ [] := by
      intro page hpage hempty
      exact hfull ⟨page, hpage, hempty⟩
    exact absurd (hpaged.length_le_maxParts hparts) (not_le.mpr hmany)

end RoboLake

namespace RoboLake.Sample

/-- A provider that answers every request with an empty page and the next marker. -/
def restlessProvider : ListPartsProvider := fun request _ =>
  .returned (.mapping [("IsTruncated", .bool true),
    ("NextPartNumberMarker", .int (request + 1))])

def restlessPages (n : Nat) : List (List ListedProviderPart × Int) :=
  (List.range n).map fun (i : Nat) => ([], (i : Int) + 1)

theorem restlessPages_paged (n : Nat) : Paged "blob" restlessProvider (restlessPages n) := by
  refine ⟨?_, ?_, ?_⟩
  · intro i hi
    have hpage : (restlessPages n)[i] = ([], (i : Int) + 1) := by simp [restlessPages]
    rw [hpage]
    refine ⟨⟨_, [], rfl, rfl, rfl, rfl, rfl⟩, ?_⟩
    change (0 : Int) < i + 1
    omega
  · rw [restlessPages, List.map_map, List.pairwise_map]
    exact List.pairwise_lt_range.imp fun hlt => by
      simp only [Function.comp_apply]
      omega
  · have hnone : (restlessPages n).flatMap Prod.fst = [] := by
      rw [List.flatMap_eq_nil_iff]
      intro page hpage
      obtain ⟨_, _, rfl⟩ := List.mem_map.mp hpage
      rfl
    rw [hnone]
    exact List.nodup_nil

/-- The adapter asks that provider for ever. -/
theorem sample_listing_never_ends :
    ¬∃ requests, (listParts "blob" restlessProvider requests).isSome = true := by
  intro h
  obtain ⟨requests, h⟩ := h
  have hgoes : Foundation.Loop.Goes (listPartsTurn "blob" restlessProvider) 0 {} requests
      (listingOf (restlessPages requests)) :=
    goes_iff.mpr ⟨_, by simp [restlessPages], restlessPages_paged requests, rfl⟩
  rw [listParts, Foundation.Loop.run_of_goes hgoes] at h
  cases h

end RoboLake.Sample

namespace RoboLake

open Foundation

variable [Platform] {objectKey : String} {provider : ListPartsProvider}

/-! ## Providers that keep their word -/

def partsAbove (parts : List ListedProviderPart) (marker : Option Int) :
    List ListedProviderPart :=
  parts.filter fun part => decide (∀ m ∈ marker, m < part.partNumber)

/-- A provider that answers a marker with the parts numbered above it, in order, up to the size of
each page, says whether parts remain and if so names the last number it returned. -/
def Serves (objectKey : String) (provider : ListPartsProvider) (parts : List ListedProviderPart)
    (pageSize : Nat → Nat) : Prop :=
  ∀ request marker, ∃ next,
    IsPage objectKey (provider request marker)
      ((partsAbove parts marker).take (pageSize request))
      (decide (pageSize request < (partsAbove parts marker).length)) next ∧
    (pageSize request < (partsAbove parts marker).length →
      ∀ last ∈ ((partsAbove parts marker).take (pageSize request)).getLast?,
        next = .int last.partNumber)

def sentPart (part : ListedProviderPart) : ProviderValue :=
  .mapping [("PartNumber", .int part.partNumber), ("Size", .int part.sizeBytes),
    ("ETag", .str part.etag), ("ChecksumSHA256", .str (String.ofList part.checksumSha256Base64)),
    ("LastModified", (part.modifiedAt.map ProviderValue.datetime).getD .none)]

theorem parseListedPart_sentPart (part : ListedProviderPart) :
    parseListedPart objectKey (sentPart part) = .ok part := by
  have hmake : ListedProviderPart.make part.partNumber part.sizeBytes part.etag
      part.checksumSha256Base64 part.modifiedAt = .ok part := by
    have hnumber := part.number_pos
    have hmax := part.number_le
    have hsize := part.size_pos
    unfold ListedProviderPart.make
    rw [dif_pos ⟨⟨by omega, by omega⟩, by omega, part.etag_ne, part.modified_aware⟩]
    split
    · rfl
    · rename_i e he
      have hok := part.checksum_canonical
      rw [he] at hok
      cases hok
  unfold parseListedPart sentPart
  cases htime : part.modifiedAt with
  | none =>
      rw [htime] at hmake
      simp [ProviderValue.get, List.lookup, hmake]
  | some t =>
      rw [htime] at hmake
      simp [ProviderValue.get, List.lookup, hmake]

/-- A provider over some parts that cuts its pages to given sizes. -/
def pagingProvider (parts : List ListedProviderPart) (pageSize : Nat → Nat) : ListPartsProvider :=
  fun request marker =>
    let page := (partsAbove parts marker).take (pageSize request)
    .returned (.mapping [("Parts", .list (page.map sentPart)),
      ("IsTruncated", .bool (pageSize request < (partsAbove parts marker).length)),
      ("NextPartNumberMarker",
        (page.getLast?.map fun last => ProviderValue.int last.partNumber).getD .none)])

theorem pagingProvider_serves (parts : List ListedProviderPart) (pageSize : Nat → Nat) :
    Serves objectKey (pagingProvider parts pageSize) parts pageSize := by
  intro request marker
  have hparse : ∀ page : List ListedProviderPart,
      (page.map sentPart).mapM (parseListedPart objectKey) = .ok page := by
    intro page
    induction page with
    | nil => rfl
    | cons part page ih =>
        exact Except.mapM_cons_ok.mpr ⟨part, page, parseListedPart_sentPart part, ih, rfl⟩
  refine ⟨_, ⟨_, _, rfl, rfl, hparse _, rfl, rfl⟩, ?_⟩
  intro _ last hlast
  rw [Option.mem_def] at hlast
  simp [ProviderValue.get, List.lookup, hlast]

omit [Platform] in
theorem partsAbove_append {front rest : List ListedProviderPart} {last : ListedProviderPart}
    (h : ((front ++ [last]) ++ rest).Pairwise fun a b => a.partNumber < b.partNumber) :
    partsAbove ((front ++ [last]) ++ rest) (some (last.partNumber : Int)) = rest := by
  have habove := filter_above_prefix (κ := Nat) h
  calc partsAbove ((front ++ [last]) ++ rest) (some (last.partNumber : Int))
      = ((front ++ [last]) ++ rest).filter fun x => last.partNumber < x.partNumber := by
        apply List.filter_congr
        intro x _
        simp
    _ = rest := habove

/-- The loop stands where it has observed all parts up to its marker. -/
structure Standing (parts rest : List ListedProviderPart) (l : PartListing) : Prop where
  split : l.observed ++ rest = parts
  above : partsAbove parts l.marker = rest
  seen : ∀ n ∈ l.seenMarkers, ∃ m ∈ l.marker, n ≤ m

omit [Platform] in
theorem nodup_of_ascending {parts : List ListedProviderPart}
    (h : parts.Pairwise fun a b => a.partNumber < b.partNumber) :
    (parts.map ListedProviderPart.partNumber).Nodup := by
  rw [List.nodup_iff_pairwise_ne, List.pairwise_map]
  exact h.imp fun hlt => hlt.ne

omit [Platform] in
theorem sortedParts_of_ascending {parts : List ListedProviderPart}
    (h : parts.Pairwise fun a b => a.partNumber < b.partNumber) : sortedParts parts = parts := by
  apply List.Pairwise.insertionSort_eq
  exact h.imp fun hlt => hlt.le

/-- From where it stands, the loop reads the rest of the parts, a page or more at a time. -/
theorem run_of_standing {parts rest : List ListedProviderPart} {pageSize : Nat → Nat}
    (hascending : parts.Pairwise fun a b => a.partNumber < b.partNumber)
    (hsize : ∀ request, 0 < pageSize request) (h : Serves objectKey provider parts pageSize)
    {fuel request : Nat} {l : PartListing} (hstanding : Standing parts rest l)
    (hfuel : rest.length < fuel) :
    Loop.run (listPartsTurn objectKey provider) fuel request l = some (.ok parts) := by
  induction fuel generalizing request l rest with
  | zero => exact absurd hfuel (Nat.not_lt_zero _)
  | succ fuel ih =>
      obtain ⟨hsplit, habove, hseen⟩ := hstanding
      have hnodup := nodup_of_ascending hascending
      have hobserved : (l.observed.map ListedProviderPart.partNumber).Nodup := by
        rw [← hsplit, List.map_append] at hnodup
        exact hnodup.of_append_left
      obtain ⟨next, hpage, hnext⟩ := h request l.marker
      rw [habove] at hpage hnext
      by_cases hmore : pageSize request < rest.length
      · -- The page ends before the last part: its last number is the next marker.
        have hne : rest.take (pageSize request) ≠ [] := by
          have hpos := hsize request
          intro hempty
          have hlength := congrArg List.length hempty
          rw [List.length_take, List.length_nil] at hlength
          omega
        have hpages := List.dropLast_append_getLast hne
        have hsum : ((l.observed ++ (rest.take (pageSize request)).dropLast) ++
            [(rest.take (pageSize request)).getLast hne]) ++ rest.drop (pageSize request) =
            parts := by
          rw [List.append_assoc l.observed, hpages, List.append_assoc, List.take_append_drop,
            hsplit]
        have hmarker := hnext hmore _ (List.getLast?_eq_getLast_of_ne_nil hne)
        rw [decide_eq_true hmore, hmarker] at hpage
        have hlast := List.getLast_mem hne
        have hrising : ∀ m ∈ l.marker,
            m < ((rest.take (pageSize request)).getLast hne).partNumber := by
          intro m hm
          have hmem : (rest.take (pageSize request)).getLast hne ∈ partsAbove parts l.marker := by
            rw [habove]
            exact List.mem_of_mem_take hlast
          have hbelow := (List.mem_filter.mp hmem).2
          rw [decide_eq_true_eq] at hbelow
          exact hbelow m hm
        have hturn : listPartsTurn objectKey provider request l = .again
            ⟨some ((rest.take (pageSize request)).getLast hne).partNumber,
              l.seenMarkers ++ [(((rest.take (pageSize request)).getLast hne).partNumber : Int)],
              l.observed ++ rest.take (pageSize request)⟩ := by
          refine (listPartsTurn_again hobserved).mpr ⟨_, _, ⟨hpage, ?_⟩, ?_, ?_, hrising, rfl⟩
          · have hpos := ((rest.take (pageSize request)).getLast hne).number_pos
            change (0 : Int) < ((rest.take (pageSize request)).getLast hne).partNumber
            omega
          · rw [← hsplit, ← List.take_append_drop (pageSize request) rest, ← List.append_assoc,
              List.map_append] at hnodup
            exact hnodup.of_append_left
          · intro hmem
            obtain ⟨m, hm, hle⟩ := hseen _ hmem
            exact absurd (hrising m hm) (not_lt.mpr hle)
        have hnextStanding : Standing parts (rest.drop (pageSize request))
            ⟨some ((rest.take (pageSize request)).getLast hne).partNumber,
              l.seenMarkers ++ [(((rest.take (pageSize request)).getLast hne).partNumber : Int)],
              l.observed ++ rest.take (pageSize request)⟩ := by
          refine ⟨?_, ?_, ?_⟩
          · rw [List.append_assoc, List.take_append_drop, hsplit]
          · rw [← hsum] at hascending ⊢
            exact partsAbove_append hascending
          · intro n hn
            refine ⟨_, rfl, ?_⟩
            rcases List.mem_append.mp hn with hn | hn
            · obtain ⟨m, hm, hle⟩ := hseen n hn
              exact (hle.trans_lt (hrising m hm)).le
            · exact (List.mem_singleton.mp hn).le
        have hfewer : (rest.drop (pageSize request)).length < fuel := by
          have hpos := hsize request
          rw [List.length_drop]
          omega
        rw [Loop.run_of_again fuel hturn]
        exact ih hnextStanding hfewer
      · have hall : rest.take (pageSize request) = rest :=
          List.take_of_length_le (not_lt.mp hmore)
        rw [decide_eq_false hmore, hall] at hpage
        have hturn : listPartsTurn objectKey provider request l = .answer (.ok parts) := by
          refine (listPartsTurn_answer_ok hobserved).mpr ⟨rest, next, hpage, ?_, ?_⟩
          · rwa [hsplit]
          · rw [hsplit, sortedParts_of_ascending hascending]
        exact Loop.run_of_answer fuel hturn

theorem ascending_of_listParts {requests : Nat} {result : List ListedProviderPart}
    (h : listParts objectKey provider requests = some (.ok result)) :
    result.Pairwise fun a b => a.partNumber < b.partNumber := by
  obtain ⟨n, _, l, hgoes, hturn⟩ := Loop.run_eq_some_iff.mp h
  obtain ⟨pages, rfl, hpaged, rfl⟩ := goes_iff.mp hgoes
  obtain ⟨parts, _, _, hnodup, rfl⟩ := (listPartsTurn_answer_ok hpaged.distinct).mp hturn
  have hperm : (sortedParts ((listingOf pages).observed ++ parts)).Perm
      ((listingOf pages).observed ++ parts) := List.perm_insertionSort _ _
  have hdistinct := (hperm.map ListedProviderPart.partNumber).nodup_iff.mpr hnodup
  rw [List.nodup_iff_pairwise_ne, List.pairwise_map] at hdistinct
  have hsorted : (sortedParts ((listingOf pages).observed ++ parts)).Pairwise
      fun a b => a.partNumber ≤ b.partNumber := List.pairwise_insertionSort _ _
  exact hsorted.imp₂ (fun _ _ hle hne => lt_of_le_of_ne hle hne) hdistinct

/-- A listing of a provider that keeps its word returns all its parts in ascending order, whatever
the sizes of its pages; and a listing of any provider returns no part number twice. -/
theorem listing_is_transparent (objectKey : String) :
    (∀ (provider : ListPartsProvider) (parts : List ListedProviderPart) (pageSize : Nat → Nat),
      (parts.Pairwise fun a b => a.partNumber < b.partNumber) → (∀ request, 0 < pageSize request) →
      Serves objectKey provider parts pageSize → ∀ requests, parts.length < requests →
      listParts objectKey provider requests = some (.ok parts)) ∧
    ∀ (provider : ListPartsProvider) (requests : Nat) (result : List ListedProviderPart),
      listParts objectKey provider requests = some (.ok result) →
      result.Pairwise fun a b => a.partNumber < b.partNumber := by
  constructor
  · intro provider parts pageSize hascending hsize h requests hrequests
    refine run_of_standing hascending hsize h ⟨rfl, ?_, ?_⟩ hrequests
    · rw [partsAbove, List.filter_eq_self]
      intro part _
      rw [decide_eq_true_eq]
      intro m hm
      cases hm
    · intro n hn
      cases hn
  · intro provider requests result h
    exact ascending_of_listParts h

end RoboLake

namespace RoboLake.Sample

theorem listed_aware : ∀ t ∈ (none : Option DateTime), t.aware = true := by
  simp

def listedPart (i : Fin 75) : ListedProviderPart where
  partNumber := i + 1
  sizeBytes := partSize i
  etag := "etag"
  checksumSha256Base64 := (partDigest i).checksumBase64
  modifiedAt := none
  number_pos := number_pos i
  number_le := number_le i
  size_pos := partSize_pos i
  etag_ne := etag_ne
  modified_aware := listed_aware
  checksum_canonical := checksum_canonical i

/-- The sample parts come back whole from pages of any sizes, here of one part and of two. -/
theorem sample_parts_are_listed :
    listParts "blob" (pagingProvider [listedPart 0, listedPart 1, listedPart 2] fun n => n + 1) 4 =
      some (.ok [listedPart 0, listedPart 1, listedPart 2]) := by
  refine (listing_is_transparent "blob").1 _ _ (fun n => n + 1) ?_ (fun n => n.succ_pos)
    (pagingProvider_serves _ _) 4 (by decide)
  decide

end RoboLake.Sample
