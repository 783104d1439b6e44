/-
**The last pair of a control key decides.**

Of the pairs that give `page`, `limit` or `sort`, plainly or in a part, only the last one counts
(`lastPair?`): a plain text replaces what was given before, and a part leaves an entry that has no
text.

* `text?_addPair`, `text?_ofPairs`: the text of a control key after one more pair, and after all;
* `search?_erase`, `query?_erase`: an entry without a text is as good as none, whatever field the
  resource searches;
* `AtDefault`, `atDefault_of_query?`: what a query looks like where nothing is asked for;
* `not_mem_filterFields`: no control key is a field to filter by;
* `last_pair_decides` puts this together.
-/

import IndexGuard.Proofs.Grouping
import IndexGuard.Proofs.Plan
import IndexGuard.Proofs.Unpaged

namespace IndexGuard

open Address (Addresses Concerns)

namespace Params

/-- The last pair of a request that gives the key, plainly or in a part. -/
def lastPair? (pairs : List (String × String)) (key : String) : Option (String × String) :=
  (pairs.filter fun pair => Concerns pair.1 key).getLast?

/-- The pairs of a request that do not give the key, neither plainly nor in a part. -/
def without (pairs : List (String × String)) (key : String) : List (String × String) :=
  pairs.filter fun pair => ¬ Concerns pair.1 key

variable {key : String}

/-! ### Control keys among the pairs -/

/-- A control key is given plainly under its own name only. -/
theorem addresses_plain_iff (control : key ∈ controlKeys) {given : String} :
    Addresses given (.plain key) ↔ given = key := by
  constructor
  · intro addressed
    cases addressed
    rfl
  · rintro rfl
    have readable : ∀ key ∈ controlKeys, Address.ofKey? key = some (.plain key) := by decide
    exact Address.ofKey?_eq_some_iff.mp (readable given control)

theorem lastPair?_append_of_concerns (pairs : List (String × String)) {pair : String × String}
    (concerns : Concerns pair.1 key) : lastPair? (pairs ++ [pair]) key = some pair := by
  rw [lastPair?, List.filter_append, List.filter_cons_of_pos (by simpa using concerns),
    List.filter_nil, List.getLast?_concat]

theorem lastPair?_append_of_not (pairs : List (String × String)) {pair : String × String}
    (elsewhere : ¬ Concerns pair.1 key) :
    lastPair? (pairs ++ [pair]) key = lastPair? pairs key := by
  rw [lastPair?, List.filter_append, List.filter_cons_of_neg (by simpa using elsewhere),
    List.filter_nil, List.append_nil, lastPair?]

/-! ### The text of a control key -/

/-- An entry that was given a part has no text. -/
theorem text?_addNested (value : ParamValue) (part text : String) :
    (value.addNested part text).text? = none := by
  cases value <;> rfl

/-- **The text of a control key after one more pair**: a plain text takes the place of all that was
given before, a part leaves none. -/
theorem text?_addPair (params : Params) (control : key ∈ controlKeys) (pair : String × String) :
    (params.addPair pair).text? key =
      if pair.1 = key then some pair.2
      else if Concerns pair.1 key then none
      else params.text? key := by
  by_cases plain : pair.1 = key
  · have addressed := Address.ofKey?_eq_some_iff.mpr ((addresses_plain_iff control).mpr plain)
    rw [if_pos plain, addPair, addressed]
    show text? (params.add (.plain key) pair.2) key = _
    rw [add_control params control, text?_insert_single, if_pos rfl]
  rw [if_neg plain]
  by_cases concerns : Concerns pair.1 key
  · rw [if_pos concerns]
    obtain ⟨address, addressed, isKey⟩ := concerns
    cases address with
    | plain field =>
      cases isKey
      exact absurd ((addresses_plain_iff control).mp addressed) plain
    | within field part =>
      cases isKey
      rw [addPair, Address.ofKey?_eq_some_iff.mpr addressed]
      show text? (params.add (.within field part) pair.2) field = none
      rw [add_within, text?, Fields.get?_insert, if_pos rfl]
      exact text?_addNested _ _ _
  · have untouched : Fields.get? (params.addPair pair) key = Fields.get? params key :=
      get?_addPair_of_not params fun address isKey addressed =>
        concerns ⟨address, addressed, isKey⟩
    rw [if_neg concerns, text?, untouched, text?]

/-- **The text of a control key is that of the last pair that gives the key**, if this pair gives it
plainly; otherwise there is none. -/
theorem text?_ofPairs (control : key ∈ controlKeys) (pairs : List (String × String)) :
    (ofPairs pairs).text? key =
      (lastPair? pairs key).bind fun pair => if pair.1 = key then some pair.2 else none := by
  -- Parameters are made pair by pair, so the last pair is the one to look at.
  induction pairs using List.reverseRecOn with
  | nil => rfl
  | append_singleton before pair ih =>
    rw [ofPairs_append_singleton, text?_addPair _ control]
    by_cases concerns : Concerns pair.1 key
    · rw [lastPair?_append_of_concerns before concerns, if_pos concerns]
      rfl
    · have other : pair.1 ≠ key := fun same =>
        concerns ⟨_, (addresses_plain_iff control).mpr same, rfl⟩
      rw [lastPair?_append_of_not before concerns, if_neg other, if_neg concerns, ih]

theorem text?_eq_some_of_lastPair? (control : key ∈ controlKeys) {pairs : List (String × String)}
    {value : String} (last : lastPair? pairs key = some (key, value)) :
    (ofPairs pairs).text? key = some value := by
  rw [text?_ofPairs control, last]
  exact if_pos rfl

theorem text?_eq_none_of_lastPair? (control : key ∈ controlKeys) {pairs : List (String × String)}
    (last : ∀ value, lastPair? pairs key ≠ some (key, value)) :
    (ofPairs pairs).text? key = none := by
  rw [text?_ofPairs control]
  cases found : lastPair? pairs key with
  | none => rfl
  | some pair =>
    refine if_neg fun plain => last pair.2 ?_
    rw [found, ← plain]

/-- **Requests make the same parameters** when they have the same pairs for all other keys and the
same plain text comes last for a control key. -/
theorem ofPairs_congr (control : key ∈ controlKeys) {first second : List (String × String)}
    {value : String} (lastFirst : lastPair? first key = some (key, value))
    (lastSecond : lastPair? second key = some (key, value))
    (same : without first key = without second key) : ofPairs first = ofPairs second := by
  have single : ∀ pairs, lastPair? pairs key = some (key, value) →
      Fields.get? (ofPairs pairs) key = some (.single value) := fun pairs last =>
    text?_eq_some_iff.mp (text?_eq_some_of_lastPair? control last)
  have others : ∀ pairs asked, key ≠ asked →
      Fields.get? (ofPairs pairs) asked = Fields.get? (ofPairs (without pairs key)) asked :=
    fun pairs asked other => by
      rw [without, ← erase_ofPairs, Fields.get?_erase, if_neg other]
  refine (gather_ofPairs first).sorted.ext (gather_ofPairs second).sorted fun asked => ?_
  by_cases isKey : key = asked
  · rw [← isKey, single first lastFirst, single second lastSecond]
  · rw [others first asked isKey, others second asked isKey, same]

/-! ### Parameters without a text for a control key -/

theorem text?_erase {params : Params} (untexted : params.text? key = none) (asked : String) :
    text? (Fields.erase params key) asked = params.text? asked := by
  rw [text?, Fields.get?_erase]
  by_cases isKey : key = asked
  · rw [if_pos isKey, ← isKey, untexted]
    rfl
  · rw [if_neg isKey, text?]

/-- An entry without a text changes no request. -/
theorem request_erase_of_untexted {params : Params} (control : key ∈ controlKeys)
    (untexted : params.text? key = none) (injected : Filter) :
    Request.ofParams (Fields.erase params key) injected = Request.ofParams params injected :=
  request_congr (withoutControls_erase params control) (text?_erase untexted sortKey) injected

/-- **No control key is a field to filter by.** -/
theorem not_mem_filterFields (params : Params) (control : key ∈ controlKeys) (injected : Filter) :
    key ∉ (Request.ofParams params injected).filterFields := by
  intro member
  have present : Fields.get? params.withoutControls key ≠ none := Fields.mem_names_iff.mp member
  rw [get?_withoutControls, if_pos control] at present
  exact present rfl

end Params

namespace Resource

variable {params : Params} {key : String}

theorem search?_erase (resource : Resource) (untexted : params.text? key = none) :
    resource.search? (Fields.erase params key) = resource.search? params := by
  unfold search?
  simp only [Params.text?_erase untexted]

theorem criteria_erase (resource : Resource) (untexted : params.text? key = none) :
    resource.criteria (Fields.erase params key) = resource.criteria params := by
  rw [criteria, criteria, search?_erase resource untexted]

theorem remaining_erase (resource : Resource) (untexted : params.text? key = none) :
    resource.remaining (Fields.erase params key) =
      Fields.erase (resource.remaining params) key := by
  rw [remaining, remaining, search?_erase resource untexted]
  cases resource.search? params with
  | none => rfl
  | some searched => exact Fields.erase_comm params key searched.1

/-- A search takes no text away but that of the search field. -/
theorem text?_remaining (resource : Resource) (untexted : params.text? key = none) :
    (resource.remaining params).text? key = none := by
  unfold remaining
  split
  · rw [Params.text?, Fields.get?_erase]
    split
    · rfl
    · exact untexted
  · exact untexted

/-- **No control key is filtered by**, whatever a resource searches. -/
theorem unfiltered (resource : Resource) (pairs : List (String × String))
    (control : key ∈ Params.controlKeys) (injected : Filter) :
    key ∉ (Request.ofParams (resource.remaining (Params.ofPairs pairs)) injected).filterFields ∧
      ∀ test ∈ (Request.ofParams (resource.remaining (Params.ofPairs pairs))
        injected).userFilter.leaves, test.field ≠ key := by
  have unnamed := Params.not_mem_filterFields (resource.remaining (Params.ofPairs pairs)) control
    injected
  refine ⟨unnamed, fun test member isKey => unnamed ?_⟩
  obtain ⟨others, same⟩ := resource.remaining_ofPairs pairs
  rw [same] at member ⊢
  exact (mem_fields_userFilter_iff others injected key).mp (List.mem_map.mpr ⟨test, member, isKey⟩)

end Resource

/-! ### Answers without a text for a control key -/

/-- The query is the default one in what the key steers. -/
structure ListQuery.AtDefault (query : ListQuery) (key : String) : Prop where
  page : key = Params.pageKey → query.paging.page = 1
  limit : key = Params.limitKey → query.paging.limit = 100
  sort : key = Params.sortKey → query.sort = [⟨"id", .descending⟩]

/-- Every service answers both requests alike: with the same page, the same plan, the same fault. -/
structure Params.Alike (first second : Params) : Prop where
  list : ∀ (service : ListService) (name : String),
    service.list name first = service.list name second
  explain : ∀ (service : ListService) (name : String),
    service.explain name first = service.explain name second

namespace ListQuery

variable {store : DocumentStore} {collection key : String} {params : Params} {injected : Filter}

theorem build_erase (control : key ∈ Params.controlKeys) (untexted : params.text? key = none) :
    build store collection (Fields.erase params key) injected =
      build store collection params injected := by
  have paging : Paging.ofParams (Fields.erase params key) = Paging.ofParams params := by
    rw [Paging.ofParams, Params.text?_erase untexted, Params.text?_erase untexted, Paging.ofParams]
  rw [build, build, Params.request_erase_of_untexted control untexted, paging]

/-- A query that was built without a text for a key is at its default there. -/
theorem atDefault_of_build (untexted : params.text? key = none) {query : ListQuery}
    (built : build store collection params injected = .ok query) : query.AtDefault key := by
  obtain ⟨declared, order, _, _, sorts, rfl⟩ := build_eq_ok built
  refine ⟨?_, ?_, ?_⟩
  · rintro rfl
    show Paging.positive Paging.firstPage (params.text? Params.pageKey) = 1
    rw [untexted]
    rfl
  · rintro rfl
    show min Paging.largestLimit (Paging.positive Paging.defaultLimit
      (params.text? Params.limitKey)) = 100
    rw [untexted]
    rfl
  · rintro rfl
    have unspecified : SortRequest.ofParams params = .unspecified := by
      rw [SortRequest.ofParams, untexted]
    rw [unspecified] at sorts
    cases sorts
    rfl

end ListQuery

namespace ListService

variable {service : ListService} {name key : String} {params : Params}

/-- **An entry without a text for a control key is as good as none.** -/
theorem query?_erase (service : ListService) (name : String) (control : key ∈ Params.controlKeys)
    (untexted : params.text? key = none) :
    service.query? name (Fields.erase params key) = service.query? name params := by
  cases known : Fields.get? service.resources name with
  | none => rw [query?_of_unknown known, query?_of_unknown known]
  | some resource =>
    rw [query?_of_resource known, query?_of_resource known,
      resource.remaining_erase untexted, resource.criteria_erase untexted,
      ListQuery.build_erase control (resource.text?_remaining untexted)]

/-- Where no text is given, a query is at its default. -/
theorem atDefault_of_query? (untexted : params.text? key = none) {query : ListQuery}
    (asked : service.query? name params = .ok query) : query.AtDefault key := by
  obtain ⟨resource, _, built⟩ := exists_resource asked
  exact ListQuery.atDefault_of_build (resource.text?_remaining untexted) built

/-- Requests that make the same query are answered alike. -/
theorem alike_of_query? {first second : Params}
    (same : ∀ (service : ListService) (name : String),
      service.query? name first = service.query? name second) : first.Alike second :=
  ⟨fun service name => by rw [list, list, same], fun service name => by rw [explain, explain, same]⟩

end ListService

/-! ### All pairs of a control key -/

namespace Params

/-- **The last pair of a control key decides.** Take any pairs of a request and a key that steers
paging or order.

* When the last pair that gives the key, plainly or in a part, gives it plainly, then its text is
  that of the key, and every request that has the same pairs for the other keys and only this pair
  for the key, wherever it stands, makes the same parameters.
* Otherwise, every service answers as if no pair gave the key. A query that it makes asks for the
  first page, for 100 documents, or for the most recent documents first.
* In no case does the client filter by the key, whatever field the resource searches.
-/
theorem last_pair_decides {key : String} (control : key ∈ controlKeys)
    (pairs : List (String × String)) :
    (∀ value, lastPair? pairs key = some (key, value) →
      (ofPairs pairs).text? key = some value ∧
      ∀ others, without others key = without pairs key →
        (others.filter fun pair => Concerns pair.1 key) = [(key, value)] →
          ofPairs pairs = ofPairs others) ∧
    ((∀ value, lastPair? pairs key ≠ some (key, value)) →
      (ofPairs pairs).text? key = none ∧
      (ofPairs pairs).Alike (ofPairs (without pairs key)) ∧
      ∀ (service : ListService) (name : String) (query : ListQuery),
        service.query? name (ofPairs pairs) = .ok query → query.AtDefault key) ∧
    ∀ (resource : Resource) (injected : Filter),
      key ∉ (Request.ofParams (resource.remaining (ofPairs pairs)) injected).filterFields ∧
      ∀ test ∈ (Request.ofParams (resource.remaining (ofPairs pairs)) injected).userFilter.leaves,
        test.field ≠ key := by
  refine ⟨fun value last => ⟨text?_eq_some_of_lastPair? control last, ?_⟩, fun last => ?_,
    fun resource injected => resource.unfiltered pairs control injected⟩
  · intro others same alone
    have lastOther : lastPair? others key = some (key, value) := by
      rw [lastPair?, alone]
      rfl
    exact ofPairs_congr control last lastOther same.symm
  · have untexted := text?_eq_none_of_lastPair? control last
    refine ⟨untexted, ListService.alike_of_query? fun service name => ?_,
      fun service name query => ListService.atDefault_of_query? untexted⟩
    rw [without, ← erase_ofPairs, service.query?_erase name control untexted]

/-- Pages of an author, asked for again behind a part and with a part at the end. -/
theorem last_pair_decides_page :
    ofPairs [("page", "2"), ("page[a]", "x"), ("author", "a1"), ("page", "3")] =
        ofPairs [("page", "3"), ("author", "a1")] ∧
      (ofPairs [("page", "3"), ("author", "a1"), ("page[a]", "x"), ("page.b", "4")]).Alike
        (ofPairs [("author", "a1"), ("page.b", "4")]) := by
  have control : pageKey ∈ controlKeys := by decide
  obtain ⟨plain, _⟩ := last_pair_decides control
    [("page", "2"), ("page[a]", "x"), ("author", "a1"), ("page", "3")]
  obtain ⟨_, bracketed, _⟩ := last_pair_decides control
    [("page", "3"), ("author", "a1"), ("page[a]", "x"), ("page.b", "4")]
  have isPart : lastPair? [("page", "3"), ("author", "a1"), ("page[a]", "x"), ("page.b", "4")]
      pageKey = some ("page[a]", "x") := by decide
  refine ⟨(plain "3" (by decide)).2 _ (by decide) (by decide), (bracketed fun value last => ?_).2.1⟩
  rw [isPart] at last
  have different : "page[a]" ≠ pageKey := by decide
  exact different (congrArg Prod.fst (Option.some.inj last))

end Params

end IndexGuard
