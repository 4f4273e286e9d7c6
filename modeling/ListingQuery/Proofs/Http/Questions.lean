import ListingQuery.Proofs.Http.Segments
import ListingQuery.Proofs.Listing.Agreement

/-!
# The two questions about a collection

A request for rows and a request for counts that carry the same description are answered alike: with
the same refusal, or with the same counts.  What the store does has no influence on the status.  Each
call has its own words; they are heard in a refusal because of the limit and nowhere else.

    status = 404, no such collection; 400, the description cannot be assembled; else 200
                                                              (rows_agree_with_counts)
-/

namespace ListingQuery

variable {σ : Type}

namespace QueryResult

/-- Encoding rows that can all be encoded keeps the counts. -/
theorem counts_encodeRows {ρ : Type} {encode : ρ → Except String Json} {r : QueryResult ρ}
    (h : ∀ row ∈ r.data, ∃ v, encode row = .ok v) : (r.encodeRows encode).counts = r.counts := by
  rw [encodeRows]
  cases hrows : r.data.mapM encode with
  | ok rows => rfl
  | error reason =>
    obtain ⟨row, hrow, hfail⟩ := exists_of_mapM_error hrows
    obtain ⟨v, hv⟩ := h row hrow
    rw [hv] at hfail
    cases hfail

end QueryResult

/-- The rows that the store fetches can be encoded. -/
def Store.Encodes {ρ : Type} (s : Store (Async σ) ρ) (encode : ρ → Except String Json) : Prop :=
  ∀ p page sort w data, ((s.find p page sort).run w).answer = .ok data →
    ∀ row ∈ data, ∃ v, encode row = .ok v

/-- The endpoint is that of a listing. -/
def Endpoint.IsListing (e : Endpoint (Async σ)) : Prop :=
  ∃ (ρ : Type) (encode : ρ → Except String Json) (l : Listing (Async σ) ρ), e = l.endpoint encode

/-- The endpoint is that of a listing over a steady store with rows that can be encoded. -/
def Endpoint.IsSteady (e : Endpoint (Async σ)) : Prop :=
  ∃ (ρ : Type) (encode : ρ → Except String Json) (l : Listing (Async σ) ρ),
    e = l.endpoint encode ∧ l.store.IsSteady ∧ l.store.Encodes encode

namespace Listing

variable {ρ : Type} {l : Listing (Async σ) ρ}

/-- The rows of an answer are a page that was fetched, if there are any. -/
theorem data_execute {counts : Option Predicate → Except StoreFailure Nat}
    {rows : Predicate → Page → List SortKey → List ρ} (h : l.store.Answers counts rows)
    (q : AssembledQuery) (w : σ) : ((l.execute q).run w).answer.data = [] ∨
      ∃ p page sort, ((l.execute q).run w).answer.data = rows p page sort := by
  simp only [execute, withTotal, Async.answer_bind, h.count]
  cases counts l.preFilter? with
  | error e => exact .inl rfl
  | ok total =>
    by_cases hzero : total = 0
    · simp only [hzero, if_true]
      exact .inl rfl
    · simp only [hzero, if_false, answer_run h]
      cases counts (some (l.filteredPredicate q none)) with
      | error e => exact .inl rfl
      | ok filtered => exact .inr ⟨_, _, _, rfl⟩

/-- Asked for rows or for counts, a steady endpoint counts the same. -/
theorem counts_endpoint {encode : ρ → Except String Json} (hsteady : l.store.IsSteady)
    (hencodes : l.store.Encodes encode) {d : QueryDescription} {q : AssembledQuery}
    (hq : l.assemble d = .ok q) (wording : Wording) (w w' : σ) :
    (((l.endpoint encode).execute q).run w).answer.counts =
      (((l.endpoint encode).count wording d).run w').answer := by
  obtain ⟨counts, rows, hanswers⟩ := hsteady
  show (((l.execute q).run w).answer.encodeRows encode).counts = ((l.count wording d).run w').answer
  rw [QueryResult.counts_encodeRows, execute_eq_findAll hq wording]
  · exact (sameCounts_findAll hanswers wording wording d w w').eq (.inl rfl)
  · intro row hrow
    rcases data_execute hanswers q w with hdata | ⟨p, page, sort, hdata⟩
    · rw [hdata] at hrow
      cases hrow
    · exact hencodes p page sort w _ (hanswers.find p page sort w) row (hdata ▸ hrow)

end Listing

namespace Http

/-- Every endpoint of the registry is that of a listing. -/
def HoldsListings (r : Registry (Async σ)) : Prop := ∀ name e, r.get name = .ok e → e.IsListing

theorem holdsListings_register {r : Registry (Async σ)} (hr : HoldsListings r)
    {endpoint : Endpoint (Async σ)} (h : endpoint.IsListing) :
    HoldsListings (r.register endpoint) := by
  intro name e he
  by_cases hname : endpoint.name = name
  · subst hname
    rw [Registry.get_register_self] at he
    cases he
    exact h
  · rw [Registry.get, Registry.register, Keyed.get?_put_of_ne hname] at he
    exact hr name e he

/-- The request asks the question about the collection, with this description. -/
structure Server.IsAsked {m : Type → Type} (s : Server m) (r : Request) (name : String)
    (question : Question) (d : QueryDescription) : Prop where
  method : r.method = "POST"
  route : ∃ segment, s.route? (pathOf r.target) = some (.collection segment question) ∧
    decodeSegment? segment = some name
  body : r.description = .ok d

/-- Why a description is refused, whatever is asked. -/
def refusal? {m : Type → Type} (r : Registry m) (name : String) (d : QueryDescription) :
    Option QueryError :=
  match r.get name with
  | .error e => some e
  | .ok endpoint =>
    match endpoint.assemble d with
    | .error e => some e
    | .ok _ => none

/-- The status of the answer to a description, whatever is asked. -/
def expectedStatus {m : Type → Type} (r : Registry m) (name : String) (d : QueryDescription) :
    Nat :=
  match r.get name with
  | .error _ => 404
  | .ok endpoint =>
    match endpoint.assemble d with
    | .error _ => 400
    | .ok _ => 200

theorem get_error {m : Type → Type} {r : Registry m} {name : String} {e : QueryError}
    (h : r.get name = .error e) : e = .unknownCollection name := by
  rw [Registry.get] at h
  split at h
  · cases h
  · exact (Except.error.inj h).symm

theorem refusal?_eq_some_iff {m : Type → Type} {r : Registry m} {name : String}
    {d : QueryDescription} {e : QueryError} : refusal? r name d = some e ↔
      r.get name = .error e ∨
        ∃ endpoint, r.get name = .ok endpoint ∧ endpoint.assemble d = .error e := by
  rw [refusal?]
  cases r.get name with
  | error e' => simp
  | ok endpoint => cases hq : endpoint.assemble d <;> simp [hq]

/-- A refusal has the status that is expected. -/
theorem status_of_refusal {r : Registry (Async σ)} (hr : HoldsListings r) {name : String}
    {d : QueryDescription} {e : QueryError} (h : refusal? r name d = some e) :
    e.status = expectedStatus r name d := by
  rcases refusal?_eq_some_iff.1 h with hget | ⟨endpoint, hget, hq⟩
  · rw [expectedStatus, hget, get_error hget]
    rfl
  · simp only [expectedStatus, hget, hq]
    obtain ⟨ρ, encode, l, rfl⟩ := hr name endpoint hget
    exact AssembledQuery.status_of_assemble hq

/-- A refusal reads the same in any wording, unless it is because of the limit. -/
theorem message_of_refusal {r : Registry (Async σ)} (hr : HoldsListings r) {name : String}
    {d : QueryDescription} {e : QueryError} (h : refusal? r name d = some e) (a b : Wording) :
    e.message a = e.message b ∨ d.limit < -1 ∧ e = .invalidQuery (.limitOutOfRange d.limit) := by
  rcases refusal?_eq_some_iff.1 h with hget | ⟨endpoint, hget, hq⟩
  · rw [get_error hget]
    exact .inl rfl
  · obtain ⟨ρ, encode, l, rfl⟩ := hr name endpoint hget
    exact AssembledQuery.message_of_assemble hq a b

namespace Server

variable {wording : Wording}

/-- The answer to a question is that of the collection, with a mark for scripts. -/
theorem respond_eq {m : Type → Type} [Monad m] {s : Server m} {r : Request} {name : String}
    {question : Question} {d : QueryDescription} (h : s.IsAsked r name question d) :
    s.respond wording r = (s.answer wording name question d >>= fun response =>
      pure { response with allowsOrigin := s.isOpen }) := by
  obtain ⟨hmethod, ⟨segment, hroute, hsegment⟩, hbody⟩ := h
  have hoptions : ¬ (s.isOpen = true ∧ r.method = "OPTIONS") := by simp [hmethod]
  have hpost : ¬ r.method ≠ "POST" := not_not.2 hmethod
  rw [respond, if_neg hoptions, hroute]
  simp only [respondAt, if_neg hpost, hsegment, hbody]

/-- A description that is refused is refused alike, whatever is asked. -/
theorem answer_of_refusal {m : Type → Type} [Monad m] {s : Server m} {name : String}
    {d : QueryDescription} {e : QueryError} (h : refusal? s.registry name d = some e)
    (question : Question) :
    s.answer wording name question d = pure (Response.ofError wording (.query e)) := by
  rcases refusal?_eq_some_iff.1 h with hget | ⟨endpoint, hget, hq⟩
  · simp only [answer, hget]
  · simp only [answer, hget, hq]

/-- A description that is not refused is answered by an endpoint that assembles it. -/
theorem answer_of_not_refusal {m : Type → Type} [Monad m] {s : Server m} {name : String}
    {d : QueryDescription} (h : refusal? s.registry name d = none) :
    ∃ endpoint q, s.registry.get name = .ok endpoint ∧ endpoint.assemble d = .ok q ∧
      ∀ wording,
        s.answer wording name .query d =
          (endpoint.execute q >>= fun r => pure ⟨200, some r.toJson, false⟩) ∧
        s.answer wording name .count d =
          (endpoint.count wording d >>= fun r => pure ⟨200, some r.toJson, false⟩) := by
  rw [refusal?] at h
  cases hget : s.registry.get name with
  | error e =>
    rw [hget] at h
    cases h
  | ok endpoint =>
    simp only [hget] at h
    cases hq : endpoint.assemble d with
    | error e =>
      rw [hq] at h
      cases h
    | ok q => exact ⟨endpoint, q, rfl, hq, fun wording => ⟨by simp only [answer, hget, hq],
        by simp only [answer, hget, hq]⟩⟩

end Server

/-! ## Both questions -/

/-- The answers about rows, in the words of `a`, and about counts, in the words of `b`, agree with each
other: both have the expected status; a refusal has the same body, but for the words about a limit that
is out of range; else there is an envelope in each, and their counts are the same if the collection is
steady. -/
structure Agree (registry : Registry (Async σ)) (name : String) (d : QueryDescription)
    (a b : Wording) (rows counts : Response) : Prop where
  status : rows.status = expectedStatus registry name d ∧
    counts.status = expectedStatus registry name d
  refused : expectedStatus registry name d ≠ 200 → ∃ e, refusal? registry name d = some e ∧
    rows.body? = some (errorBody a (.query e)) ∧ counts.body? = some (errorBody b (.query e)) ∧
    (rows.body? = counts.body? ∨ d.limit < -1 ∧ e = .invalidQuery (.limitOutOfRange d.limit))
  counted : expectedStatus registry name d = 200 → ∃ (r : QueryResult Json) (c : CountResult),
    rows.body? = some r.toJson ∧ counts.body? = some c.toJson ∧
      ((∀ endpoint, registry.get name = .ok endpoint → endpoint.IsSteady) → r.counts = c)

theorem agree_of_isAsked {s : Server (Async σ)} (hs : HoldsListings s.registry) {name : String}
    {d : QueryDescription} {rows counts : Request} (hrows : s.IsAsked rows name .query d)
    (hcounts : s.IsAsked counts name .count d) (a b : Wording) (w w' : σ) :
    Agree s.registry name d a b ((s.respond a rows).run w).answer
      ((s.respond b counts).run w').answer := by
  rw [Server.respond_eq hrows, Server.respond_eq hcounts]
  cases hrefusal : refusal? s.registry name d with
  | some e =>
    have hstatus := status_of_refusal hs hrefusal
    rw [Server.answer_of_refusal hrefusal, Server.answer_of_refusal hrefusal]
    refine ⟨⟨hstatus, hstatus⟩, fun _ => ⟨e, hrefusal, rfl, rfl, ?_⟩, fun h => ?_⟩
    · refine (message_of_refusal hs hrefusal a b).imp_left fun hmessage => ?_
      show some (errorBody a (.query e)) = some (errorBody b (.query e))
      rw [errorBody, errorBody, ListingError.message, ListingError.message, hmessage]
    · rw [← hstatus] at h
      cases e <;> cases h
  | none =>
    obtain ⟨endpoint, q, hget, hq, hanswer⟩ := Server.answer_of_not_refusal hrefusal
    have hstatus : expectedStatus s.registry name d = 200 := by
      simp only [expectedStatus, hget, hq]
    rw [(hanswer a).1, (hanswer b).2]
    refine ⟨⟨hstatus.symm, hstatus.symm⟩, fun h => absurd hstatus h,
      fun _ => ⟨_, _, rfl, rfl, fun hsteady => ?_⟩⟩
    obtain ⟨ρ, encode, l, rfl, hstore, hencodes⟩ := hsteady endpoint hget
    exact Listing.counts_endpoint hstore hencodes hq b w w'

/-- Rows and counts agree: in a steady listing, whether the query is compiled beforehand or not; and
over HTTP, where every name but the empty one can be asked about.  Every call may have its own words;
with the same ones, or with a limit in range, there is no difference at all. -/
theorem rows_agree_with_counts :
    (∀ {ρ : Type} (l : Listing (Async σ) ρ), l.store.IsSteady → ∀ a b d w w',
      SameCounts a b d ((l.findAll a d).run w).answer.counts ((l.count b d).run w').answer ∧
      (a = b ∨ -1 ≤ d.limit →
        ((l.findAll a d).run w).answer.counts = ((l.count b d).run w').answer) ∧
      ∀ q, l.assemble d = .ok q →
        ((l.execute q).run w).answer = ((l.findAll a d).run w').answer) ∧
    (∀ s : Server (Async σ), HoldsListings s.registry → ∀ name d rows counts,
      s.IsAsked rows name .query d → s.IsAsked counts name .count d → ∀ a b w w',
        Agree s.registry name d a b ((s.respond a rows).run w).answer
          ((s.respond b counts).run w').answer) ∧
    ∀ (s : Server (Async σ)) (name : String), name ≠ "" → ∃ segment,
      decodeSegment? segment = some name ∧ ∀ question,
        Keyed.get? s.pages (questionPath segment question) = none →
          s.route? (pathOf (questionPath segment question)) =
            some (.collection segment question) := by
  refine ⟨fun l ⟨counts, rows, h⟩ a b d w w' => ?_,
    fun s hs name d rows counts hrows hcounts => agree_of_isAsked hs hrows hcounts,
    fun s name hname => ?_⟩
  · have hsame := Listing.sameCounts_findAll h a b d w w'
    refine ⟨hsame, hsame.eq, fun q hq => ?_⟩
    rw [Listing.execute_eq_findAll hq a]
    exact Listing.answer_findAll h a d w w'
  · obtain ⟨hslash, hmark⟩ := not_mem_encodeSegment name
    refine ⟨encodeSegment name, decodeSegment?_encodeSegment name, fun question hpage => ?_⟩
    rw [pathOf_questionPath hmark]
    exact route?_questionPath s (encodeSegment_ne_empty hname) hslash question hpage

/-! ### A collection of numbers -/

/-- Two numbers, whatever is asked; the world holds the number of calls. -/
def twoNumbers : Store (Async Nat) Nat where
  count _ := ⟨fun calls => ⟨.ok 2, 1, calls + 1⟩⟩
  find _ _ _ := ⟨fun calls => ⟨.ok [1, 2], 1, calls + 1⟩⟩

def numbers : Listing (Async Nat) Nat where
  schema := ⟨"numbers", ⟨"Number", [⟨"n", none, .scalar .u32⟩]⟩, []⟩
  store := twoNumbers

/-- The server of this one collection. -/
def numberServer : Server (Async Nat) where
  registry := Registry.register {} (numbers.endpoint fun n => .ok (Json.ofNat n))

/-- A request about the numbers without any wishes. -/
def numberRequest (question : Question) : Request :=
  ⟨"POST", questionPath "numbers" question, some "application/json", "{}"⟩

theorem numberServer_isAsked (question : Question) :
    numberServer.IsAsked (numberRequest question) "numbers" question {} := by
  have hjson : (numberRequest question).isJson = true := by
    show Request.isJson ⟨"", "", some "application/json", ""⟩ = true
    decide +kernel
  refine ⟨rfl, ⟨"numbers", ?_, by decide +kernel⟩, ?_⟩
  · rw [numberRequest, pathOf_questionPath (by decide)]
    exact route?_questionPath numberServer (by decide) (by decide) question rfl
  · have hbody : Json.readText QueryDescription.ofWire (numberRequest question).body = .ok {} := by
      show Json.readText QueryDescription.ofWire "{}" = .ok {}
      rfl
    rw [Request.description, hjson, hbody]
    rfl

/-- A wording that names the bound. -/
def atLeast : Wording := { plainWording with limitOutOfRange := fun _ => "at least -1" }

/-- A wording that names the limit. -/
def outOfRange : Wording :=
  { plainWording with limitOutOfRange := fun limit => toString limit ++ " is out of range" }

theorem numbers_agree_with_counts :
    let tooLow : QueryDescription := { limit := -5 }
    numbers.store.IsSteady ∧ HoldsListings numberServer.registry ∧
    numberServer.IsAsked (numberRequest .query) "numbers" .query {} ∧
    numberServer.IsAsked (numberRequest .count) "numbers" .count {} ∧
    ((numbers.findAll atLeast {}).run 0).answer.counts =
      ((numbers.count outOfRange {}).run 5).answer ∧
    (∃ q, numbers.assemble {} = .ok q ∧
      ((numbers.execute q).run 0).answer = ((numbers.findAll atLeast {}).run 5).answer) ∧
    SameCounts atLeast outOfRange tooLow ((numbers.findAll atLeast tooLow).run 0).answer.counts
      ((numbers.count outOfRange tooLow).run 5).answer ∧
    ((numbers.findAll atLeast tooLow).run 0).answer.error? = some "Invalid query: at least -1" ∧
    ((numbers.count outOfRange tooLow).run 5).answer.error? =
      some "Invalid query: -5 is out of range" ∧
    Agree numberServer.registry "numbers" {} atLeast outOfRange
      ((numberServer.respond atLeast (numberRequest .query)).run 0).answer
      ((numberServer.respond outOfRange (numberRequest .count)).run 5).answer ∧
    ∃ segment, decodeSegment? segment = some "numbers" ∧
      numberServer.route? (pathOf (questionPath segment .query)) =
        some (.collection segment .query) := by
  intro tooLow
  have hsteady : numbers.store.IsSteady :=
    ⟨fun _ => .ok 2, fun _ _ _ => [1, 2], fun _ _ => rfl, fun _ _ _ _ => rfl⟩
  have hlistings : HoldsListings numberServer.registry :=
    holdsListings_register (fun _ _ h => by cases h) ⟨_, _, numbers, rfl⟩
  have hquery := numberServer_isAsked .query
  have hcount := numberServer_isAsked .count
  obtain ⟨hlisting, hserver, hname⟩ := rows_agree_with_counts (σ := Nat)
  obtain ⟨-, hequal, hexecute⟩ := hlisting numbers hsteady atLeast outOfRange {} 0 5
  obtain ⟨hsame, -, -⟩ := hlisting numbers hsteady atLeast outOfRange tooLow 0 5
  obtain ⟨segment, hsegment, hroute⟩ := hname numberServer "numbers" (by decide)
  exact ⟨hsteady, hlistings, hquery, hcount, hequal (.inr (by decide)),
    ⟨_, rfl, hexecute _ rfl⟩, hsame, rfl, by decide,
    hserver numberServer hlistings _ _ _ _ hquery hcount _ _ 0 5, segment, hsegment,
    hroute .query rfl⟩

end Http

end ListingQuery
