import RealtimeChat.Chat.Paging
import RealtimeChat.Chat.Search

/-! Paging through the results of a search.

A client asks for one page after another by its offset. The search falls back to
similar texts when the exact one found nothing, and what it looks at is the page:
beyond the last exact match, the pages are those of the similar texts at the same
offsets, under a total that counts exact matches.
-/

set_option autoImplicit false

namespace RealtimeChat.Chat

open Foundation Accounts

namespace SearchService

section Pages

variable (text : TextFunctions) (fuzzyAvailable : Bool) (backend : Backend) (actorId : UserId)
  (query : MessageSearchQuery) (limit : Nat)

def answer (offset : Nat) : Result SearchResponse :=
  ((searchMessages text true fuzzyAvailable actorId query ⟨limit, offset, none, none⟩).run backend).2

def resultsAt (offset : Nat) : List SearchResult :=
  match answer text fuzzyAvailable backend actorId query limit offset with
  | .ok response => response.results
  | .error _ => []

/-- The pages at the offsets in steps of the limit, up to the first empty one. -/
def searchPages (fuel : Nat) : Option (List (List SearchResult)) :=
  walk (fun _ offset => resultsAt text fuzzyAvailable backend actorId query limit offset)
    (fun offset _ => offset + limit) fuel 0 0

def exactResults : List SearchResult :=
  (((MessageSearchRepository.exactMatches text backend.store actorId query).map
    (MessageSearchRepository.exactHit text query)).insertionSort fun first second =>
      MessageSearchRepository.rankedBefore first second).map SearchResult.of

/-- The similar texts, if the request asks for them and the database has them. -/
def fuzzyResults : List SearchResult :=
  if query.fuzzy && fuzzyAvailable then
    (((MessageSearchRepository.fuzzyMatches text backend.store actorId query).map
      (MessageSearchRepository.fuzzyHit text query)).insertionSort fun first second =>
        MessageSearchRepository.rankedBefore first second).map SearchResult.of
  else []

end Pages

variable {text : TextFunctions} {fuzzyAvailable : Bool} {backend : Backend} {actorId : UserId}
  {query : MessageSearchQuery} {limit : Nat} {term : String}

theorem page_map (pagination : Pagination) (rows : List Message) (hit : Message → MessageSearchHit) :
    (MessageSearchRepository.page pagination rows hit).map SearchResult.of =
      cutAt pagination.limit pagination.offset (((rows.map hit).insertionSort fun first second =>
        MessageSearchRepository.rankedBefore first second).map SearchResult.of) := by
  rw [MessageSearchRepository.page, Pagination.slice, cutAt, List.map_take, List.map_drop]

/-- A page of the search is one of the exact results or, where they are over, of the similar ones. -/
theorem search_map (pagination : Pagination) :
    (MessageSearchRepository.search text fuzzyAvailable backend.store actorId query pagination).map SearchResult.of =
      spareCut (exactResults text backend actorId query) (fuzzyResults text fuzzyAvailable backend actorId query)
        pagination.limit pagination.offset := by
  have exact := page_map pagination (MessageSearchRepository.exactMatches text backend.store actorId query)
    (MessageSearchRepository.exactHit text query)
  have similar := page_map pagination (MessageSearchRepository.fuzzyMatches text backend.store actorId query)
    (MessageSearchRepository.fuzzyHit text query)
  unfold MessageSearchRepository.search spareCut fuzzyResults exactResults
  dsimp only
  rw [← exact, List.isEmpty_map]
  cases query.fuzzy && fuzzyAvailable with
  | true =>
    rw [Bool.and_true, if_pos rfl, ← similar]
    split <;> rfl
  | false =>
    -- Without the fallback an empty page stays empty.
    rw [Bool.and_false, if_neg Bool.false_ne_true, if_neg Bool.false_ne_true]
    split
    · next none =>
      rw [List.isEmpty_iff.mp none, cutAt, List.drop_nil, List.take_nil, List.map_nil]
    · rfl

theorem answer_eq (accepted : validateTerm query.term = .ok term) (offset : Nat) :
    answer text fuzzyAvailable backend actorId query limit offset =
      .ok ⟨term, MessageSearchRepository.count text backend.store actorId { query with term := term },
        (resultsAt text fuzzyAvailable backend actorId query limit offset).length, fuzzyAvailable, limit, offset,
        resultsAt text fuzzyAvailable backend actorId query limit offset⟩ ∧
      resultsAt text fuzzyAvailable backend actorId query limit offset =
        spareCut (exactResults text backend actorId { query with term := term })
          (fuzzyResults text fuzzyAvailable backend actorId { query with term := term }) limit offset := by
  have run : answer text fuzzyAvailable backend actorId query limit offset =
      .ok ⟨term, MessageSearchRepository.count text backend.store actorId { query with term := term },
        ((MessageSearchRepository.search text fuzzyAvailable backend.store actorId { query with term := term }
          ⟨limit, offset, none, none⟩).map SearchResult.of).length, fuzzyAvailable, limit, offset,
        (MessageSearchRepository.search text fuzzyAvailable backend.store actorId { query with term := term }
          ⟨limit, offset, none, none⟩).map SearchResult.of⟩ := by
    unfold answer searchMessages
    rw [accepted]
    rfl
  have page : resultsAt text fuzzyAvailable backend actorId query limit offset =
      (MessageSearchRepository.search text fuzzyAvailable backend.store actorId { query with term := term }
        ⟨limit, offset, none, none⟩).map SearchResult.of := by
    rw [resultsAt, run]
  exact ⟨by rw [page, run], page.trans (search_map ⟨limit, offset, none, none⟩)⟩

theorem exactResults_length :
    (exactResults text backend actorId query).length = MessageSearchRepository.count text backend.store actorId query := by
  rw [exactResults, List.length_map, List.length_insertionSort, List.length_map, MessageSearchRepository.count]

theorem exactResults_exact {result : SearchResult} (member : result ∈ exactResults text backend actorId query) :
    result.fuzzyMatch = false := by
  obtain ⟨hit, listed, rfl⟩ := List.mem_map.mp member
  obtain ⟨row, -, rfl⟩ := List.mem_map.mp ((List.mem_insertionSort _).mp listed)
  rfl

/-- Similar texts come only if there is no exact match; with exact matches, the pages have as many results
as the total says, all of them exact. -/
def Faithful (total : Nat) (results : List SearchResult) : Prop :=
  ((∃ result ∈ results, result.fuzzyMatch = true) → total = 0) ∧
    (0 < total → results.length = total ∧ ∀ result ∈ results, result.fuzzyMatch = false)

theorem faithful_append_iff {exact similar : List SearchResult} (exacts : ∀ result ∈ exact, result.fuzzyMatch = false) :
    Faithful exact.length (exact ++ similar) ↔ exact.length = 0 ∨ similar = [] := by
  constructor
  · intro faithful
    rcases Nat.eq_zero_or_pos exact.length with none | some
    · exact Or.inl none
    · have count := (faithful.2 some).1
      rw [List.length_append] at count
      exact Or.inr (List.length_eq_zero_iff.mp (by omega))
  · rintro (none | rfl)
    · exact ⟨fun _ => none, fun some => absurd none (Nat.ne_of_gt some)⟩
    · rw [List.append_nil]
      refine ⟨fun ⟨result, member, fuzzy⟩ => ?_, fun _ => ⟨rfl, exacts⟩⟩
      rw [exacts result member] at fuzzy
      cases fuzzy

/-- There is no exact match, no fallback, or no more similar texts than the pages of the exact matches have
room for. -/
def FallbackCovered (text : TextFunctions) (fuzzyAvailable : Bool) (store : Store) (actorId : UserId)
    (query : MessageSearchQuery) (limit : Nat) : Prop :=
  MessageSearchRepository.exactMatches text store actorId query = [] ∨ (query.fuzzy && fuzzyAvailable) = false ∨
    (MessageSearchRepository.fuzzyMatches text store actorId query).length ≤
      roundUp (MessageSearchRepository.exactMatches text store actorId query).length limit

theorem fallbackCovered_iff :
    FallbackCovered text fuzzyAvailable backend.store actorId query limit ↔
      MessageSearchRepository.count text backend.store actorId query = 0 ∨
        (fuzzyResults text fuzzyAvailable backend actorId query).drop
          (roundUp (MessageSearchRepository.count text backend.store actorId query) limit) = [] := by
  unfold FallbackCovered MessageSearchRepository.count fuzzyResults
  rw [List.length_eq_zero_iff, List.drop_eq_nil_iff]
  cases query.fuzzy && fuzzyAvailable <;> simp

/-- A walk through the pages of a search ends, and what it receives is faithful to the total exactly if the
fallback is covered. -/
theorem search_pages_faithful_iff (positive : 0 < limit) (accepted : validateTerm query.term = .ok term) :
    (∃ fuel, (searchPages text fuzzyAvailable backend actorId query limit fuel).isSome) ∧
      ∀ fuel pages, searchPages text fuzzyAvailable backend actorId query limit fuel = some pages →
        ∃ response, answer text fuzzyAvailable backend actorId query limit 0 = .ok response ∧
          (Faithful response.total pages.flatten ↔
            FallbackCovered text fuzzyAvailable backend.store actorId { query with term := term } limit) := by
  have pagesEq : (fun (_ : Nat) offset => resultsAt text fuzzyAvailable backend actorId query limit offset) =
      fun _ offset => spareCut (exactResults text backend actorId { query with term := term })
        (fuzzyResults text fuzzyAvailable backend actorId { query with term := term }) limit offset :=
    funext fun _ => funext fun offset => (answer_eq accepted offset).2
  unfold searchPages
  rw [pagesEq]
  refine ⟨spareCut_ends positive _ _ 0 0, fun fuel pages walked => ⟨_, (answer_eq accepted 0).1, ?_⟩⟩
  rw [spareCut_received_all positive walked, fallbackCovered_iff, ← exactResults_length]
  exact faithful_append_iff fun _ member => exactResults_exact member

/-- The windows of three letters that `pg_trgm` takes from a word in small letters. -/
def trigrams (word : String) : List (List Char) :=
  ((("  " ++ word ++ " ").toList.tails.filter fun text => 3 ≤ text.length).map (List.take 3)).dedup

/-- For contents of one such word: the share of windows that two words have in common. -/
def oneWord : TextFunctions :=
  { plainText with
    similarity := fun content term =>
      let common := ((trigrams content).filter (trigrams term).contains).length
      common / ((trigrams content).length + (trigrams term).length - common : Nat) }

def pizza : MessageSearchQuery := ⟨"pizza", none, none, none, none, true, false⟩

/-- Behind the greeting, a misspelt word and twice the right one. -/
def misspelt : Backend :=
  ["pizzza", "pizza", "pizza"].foldl
    (fun backend content => ((MessageService.send 2 ⟨1, content, .text, []⟩).run backend).1) greeted.state

theorem search_pages_faithful_iff_one_page :
    (∃ fuel, (searchPages oneWord true misspelt 1 pizza 10 fuel).isSome) ∧
      ∃ pages response, searchPages oneWord true misspelt 1 pizza 10 2 = some pages ∧
        answer oneWord true misspelt 1 pizza 10 0 = .ok response ∧ Faithful response.total pages.flatten := by
  obtain ⟨ends, faithful⟩ := @search_pages_faithful_iff oneWord true misspelt 1 pizza 10 "pizza" (by decide)
    (by decide +kernel)
  obtain ⟨pages, walked⟩ := Option.isSome_iff_exists.mp (by decide +kernel :
    (searchPages oneWord true misspelt 1 pizza 10 2).isSome)
  obtain ⟨response, answered, covered⟩ := faithful 2 pages walked
  exact ⟨ends, pages, response, walked, answered, covered.mpr (Or.inr (Or.inr (by decide +kernel)))⟩

/-- One at a time, the two exact matches come first and then, at offset two, one that is only similar. -/
theorem similar_after_exact :
    oneWord.similarity "pizzza" "pizza" = 6 / 7 ∧
    ∃ pages response, searchPages oneWord true misspelt 1 pizza 1 4 = some pages ∧
      answer oneWord true misspelt 1 pizza 1 0 = .ok response ∧ response.total = 2 ∧
      pages.flatten.map (fun result => (result.messageId, result.fuzzyMatch)) = [(4, false), (3, false), (2, true)] ∧
      ¬ Faithful response.total pages.flatten := by
  obtain ⟨pages, walked, shown⟩ := (Option.any_eq_true _ _).mp (by decide +kernel :
    (searchPages oneWord true misspelt 1 pizza 1 4).any fun pages =>
      pages.flatten.map (fun result => (result.messageId, result.fuzzyMatch)) = [(4, false), (3, false), (2, true)])
  have received := of_decide_eq_true shown
  have accepted : validateTerm pizza.term = .ok "pizza" := by decide +kernel
  obtain ⟨response, answered, total⟩ : ∃ response,
      answer oneWord true misspelt 1 pizza 1 0 = .ok response ∧ response.total = 2 :=
    ⟨_, (answer_eq accepted 0).1, by decide +kernel⟩
  refine ⟨by decide +kernel, pages, response, walked, answered, total, received, fun faithful => ?_⟩
  have count := (faithful.2 (total ▸ by decide)).1
  have length := congrArg List.length received
  rw [List.length_map, count, total] at length
  exact absurd length (by decide)

end SearchService

end RealtimeChat.Chat
