import TollBackend.LookupKept

/-!
# What a checkout commit changes

A checkout commit takes the ticket from its request. It finds the record of the ticket under
any tag, then its row, and never compares their tag with its own. As long as what it reads
about the ticket carries the tag of the request, it changes nothing of another tag. All this is
about the tickets that commits name; what happens to other tickets does not matter.

## Main definitions

* `OtherTagsKept`: no row, charge or cached record of another tag changes.
* `OwnReads`: what a commit reads carries its tag.
* `ReadsNamed`: the row that a commit reads is that of a ticket of a given set.
* `ownContract`: what a commit guarantees then.

## Main results

* `ownContract_sound`: all requests keep the contract.
-/

namespace TollBackend

open Concurrent

/-- The tag of a row, as it is read. -/
def TransportTransactionStage.tag (row : TransportTransactionStage) : String :=
  normalizeEtag ((readString row.etagNumber).getD "")

/-- The row of the ticket carries the tag. -/
def Sys.TripOf (s : Sys) (tag : String) (ticketId : Int) : Prop :=
  ∃ row ∈ s.stages.row? ticketId, row.tag = tag

instance (s : Sys) (tag : String) (ticketId : Int) : Decidable (s.TripOf tag ticketId) := by
  unfold Sys.TripOf; infer_instance

/-- Between two states, no row, no account transaction and no cached record of another tag
has changed, has come or has gone. -/
structure OtherTagsKept (tag : String) (s s' : Sys) : Prop where
  rows : ∀ id row, row.tag ≠ tag →
    (s'.stages.row? id = some row ↔ s.stages.row? id = some row)
  accounts : ∀ account : AccountTransaction, ¬ s.TripOf tag account.transportTransId →
    (account ∈ s'.accounts ↔ account ∈ s.accounts)
  cached : ∀ key e, key ≠ tag → (s'.cache.Cached key e ↔ s.cache.Cached key e)

/-- What a checkout commit reads about a ticket carries its tag, and the cache has room for
what it saves. -/
def OwnReads (req : Req) (o : Op) (c : Choice) (s : Sys) : Prop :=
  match req with
  | .checkoutCommit commit =>
      match o with
      | .ask (.stageFindById id) =>
          ∀ row ∈ s.stages.row? id, row.tag = normalizeEtag commit.etag
      | .cacheGetByTicketId ticketId => s.cache.OnlyUnder (normalizeEtag commit.etag) ticketId
      | .cacheRemoveByTicketId ticketId => s.cache.OnlyUnder (normalizeEtag commit.etag) ticketId
      | .accountUpdateCommitStatus id _ _ => ∀ account ∈ s.accounts,
          account.accountTransactionId = id →
            s.TripOf (normalizeEtag commit.etag) account.transportTransId
      | .saveEtdr write => s.cache.HasRoomFor write.etdr c.env.now
      | _ => True
  | _ => True

instance (req : Req) (o : Op) (c : Choice) (s : Sys) : Decidable (OwnReads req o c s) := by
  induction req using Req.casesOn with
  | checkoutCommit commit =>
    induction o using Op.casesOn with
    | ask q => induction q using Query.casesOn <;> (unfold OwnReads; infer_instance)
    | _ => unfold OwnReads; infer_instance
  | _ => unfold OwnReads; infer_instance

/-- The rows that a checkout commit reads by their ticket are of tickets in `named`. -/
def ReadsNamed (named : Int → Prop) (req : Req) (o : Op) : Prop :=
  match req with
  | .checkoutCommit _ =>
      match o with
      | .ask (.stageFindById id) => named id
      | _ => True
  | _ => True

instance (named : Int → Prop) [DecidablePred named] (req : Req) (o : Op) :
    Decidable (ReadsNamed named req o) := by
  induction req using Req.casesOn with
  | checkoutCommit commit =>
    induction o using Op.casesOn with
    | ask q => induction q using Query.casesOn <;> (unfold ReadsNamed; infer_instance)
    | _ => unfold ReadsNamed; infer_instance
  | _ => unfold ReadsNamed; infer_instance

/-- A full-row `UPDATE` does not change the tag of the row of a ticket in `named`. -/
def TagKept (named : Int → Prop) (o : Op) (s : Sys) : Prop :=
  match o with
  | .stageUpdate id entity => named id → ∀ row ∈ s.stages.row? id, entity.tag = row.tag
  | _ => True

instance (named : Int → Prop) [DecidablePred named] (o : Op) (s : Sys) :
    Decidable (TagKept named o s) := by
  induction o using Op.casesOn <;> (unfold TagKept; infer_instance)

/-- The tag of a checkout commit has no NUL inside. -/
def PlainTag : Req → Prop
  | .checkoutCommit commit => '\x00' ∉ (normalizeEtag commit.etag).toList
  | _ => True

instance : DecidablePred PlainTag := fun req => by
  induction req using Req.casesOn <;> (unfold PlainTag; infer_instance)

/-! ### One operation -/

variable {named : Int → Prop} {tag : String} {s s' : Sys} {o : Op} {c : Choice}

/-- What the operation writes is of the tag. -/
def WritesOwn (tag : String) (o : Op) (c : Choice) (s : Sys) : Prop :=
  match o with
  | .stageInsertRow entity => entity.tag = tag
  | .stageUpdate _ _ => False
  | .stageUpdateCheckinCommit _ _ => False
  | .stageUpdateCheckoutInfo _ _ => False
  | .stageUpdateHubId _ _ => False
  | .stageUpdateCheckoutCommit id _ => ∀ row ∈ s.stages.row? id, row.tag = tag
  | .accountInsert _ => False
  | .accountUpdateCommitStatus id _ _ => ∀ account ∈ s.accounts,
      account.accountTransactionId = id → s.TripOf tag account.transportTransId
  | .cacheFillFromSync etag _ _ => normalizeEtag etag = tag
  | .saveEtdr write =>
      normalizeEtag write.etdr.etagId = tag ∧ s.cache.HasRoomFor write.etdr c.env.now
  | .cacheRemoveByTicketId ticketId => s.cache.OnlyUnder tag ticketId
  | .saveEtdrToMemoryOnly _ => False
  | .cacheUpdateHubId _ _ => False
  | _ => True

theorem OtherTagsKept.of_same (stages : s'.stages = s.stages) (accounts : s'.accounts = s.accounts)
    (cache : s'.cache = s.cache) : OtherTagsKept tag s s' where
  rows _ _ _ := by rw [stages]
  accounts _ _ := by rw [accounts]
  cached _ _ _ := by rw [cache]

theorem rows_kept_of_own (own : WritesOwn tag o c s) {id : Int} {row : TransportTransactionStage}
    (other : row.tag ≠ tag) :
    (o.exec c s).2.stages.row? id = some row ↔ s.stages.row? id = some row := by
  have write_own : ∀ {old new}, s.stages.row? id = some old → RowWrite id old o new →
      old.tag = tag ∧ new.tag = tag := by
    intro old new stored write
    cases write with
    | checkoutCommit cols => exact ⟨own old stored, own old stored⟩
    | update entity => exact own.elim
    | checkinCommit cols _ => exact own.elim
    | checkoutInfo cols => exact own.elim
    | hubId hubId now => exact own.elim
  -- a row that exists can be updated, and one that does not can be inserted
  cases stored : s.stages.row? id with
  | some old =>
    obtain ⟨new, found, rfl | write⟩ := row?_of_exec (o := o) (c := c) stored
    · rw [found]
    · obtain ⟨oldTag, newTag⟩ := write_own stored write
      rw [found]
      constructor
      · intro eq
        cases eq
        exact absurd newTag other
      · intro eq
        cases eq
        exact absurd oldTag other
  | none =>
    refine ⟨fun found => ?_, fun eq => by cases eq⟩
    obtain ⟨entity, sysdate, rfl, -, rfl⟩ := row?_of_exec_of_none stored found
    exact absurd own other

theorem accounts_kept_of_own (own : WritesOwn tag o c s) {account : AccountTransaction}
    (other : ¬ s.TripOf tag account.transportTransId) :
    account ∈ (o.exec c s).2.accounts ↔ account ∈ s.accounts := by
  rcases accounts_of_exec o c s with ⟨same, -⟩ | write
  · rw [same]
  · generalize (o.exec c s).2 = s' at write
    cases write with
    | insert params id accounts _ => exact own.elim
    | status id status finish accounts _ =>
      rw [accounts]
      -- only the account transaction with the id of the statement changes
      constructor
      · intro mem
        obtain ⟨old, inOld, eq⟩ := List.mem_map.mp mem
        split at eq
        · next hit =>
          subst eq
          exact absurd (own old inOld hit) other
        · exact eq ▸ inOld
      · intro mem
        refine List.mem_map.mpr ⟨account, mem, if_neg fun hit => ?_⟩
        exact other (own account mem hit)

theorem cached_kept_of_own (own : WritesOwn tag o c s) {key : String} {e : Etdr}
    (other : key ≠ tag) :
    (o.exec c s).2.cache.Cached key e ↔ s.cache.Cached key e := by
  rcases o.kind with op | op | op
  · obtain ⟨stages, accounts, commits, eq⟩ := op.exec_eq c s
    rw [eq]
  · obtain ⟨keydb, pendingTcds, eq⟩ := op.exec_eq c s
    rw [eq]
  · cases op with
    | getLatest etag => exact EtdrCache.cached_modifyEntry_same (CacheEntry.touch_etdr _)
    | getAll etag => exact EtdrCache.cached_getAllByEtag
    | getByTicket ticketId => exact EtdrCache.cached_getByTicketId
    | fill etag refTransId sync =>
      have here : normalizeEtag etag = tag := own
      exact EtdrCache.cached_congr fun recs => EtdrCache.mem_modifyEntry_of_ne (here ▸ other)
    | save write => exact EtdrCache.cached_put_of_ne own.2 (own.1 ▸ other)
    | saveToMemory etdr => exact own.elim
    | remove ticketId => exact EtdrCache.cached_removeByTicketId_of_ne own other
    | updateHubId ticketId hubId => exact own.elim
    | _ => exact Iff.rfl

/-- An operation that writes only what is of a tag leaves the others alone. -/
theorem otherTagsKept_exec (own : WritesOwn tag o c s) : OtherTagsKept tag s (o.exec c s).2 where
  rows _ _ := rows_kept_of_own own
  accounts _ := accounts_kept_of_own own
  cached _ _ := cached_kept_of_own own

/-- The row of a ticket keeps its tag. -/
theorem tripOf_exec {t : Int} (isNamed : named t) (kept : TagKept named o s)
    (trip : s.TripOf tag t) : (o.exec c s).2.TripOf tag t := by
  obtain ⟨row, stored, eq⟩ := trip
  obtain ⟨row', found, rfl | write⟩ := row?_of_exec (o := o) (c := c) stored
  · exact ⟨row', found, eq⟩
  · refine ⟨row', found, ?_⟩
    rw [← eq]
    cases write with
    | update entity => exact kept isNamed row stored
    | checkinCommit cols _ => rfl
    | checkoutInfo cols => rfl
    | checkoutCommit cols => rfl
    | hubId hubId now => rfl

/-! ### The contract -/

/-- A checkout commit relies on the rows of the tickets in `named` keeping their tags. If what it
reads carries its tag and is of these tickets, it changes nothing of another tag, and answers with
success only for a trip of its own among them. -/
def ownContract (named : Int → Prop) : Contract backend where
  inv s := s.cache.WellFormed
  rely _ _ s s' := ∀ tag t, named t → s.TripOf tag t → s'.TripOf tag t
  may req _ o c s := TagKept named o s ∧ OwnReads req o c s ∧ ReadsNamed named req o
  must req _ o c s := ∀ commit, req = .checkoutCommit commit →
    OtherTagsKept (normalizeEtag commit.etag) s (o.exec c s).2 ∧
      ∀ t, o.answer? = some (.checkoutCommit commit 0 t) →
        named t ∧ s.TripOf (normalizeEtag commit.etag) t
  rely_refl _ _ _ _ _ _ := id
  rely_trans _ _ _ _ _ first second tag t isNamed := second tag t isNamed ∘ first tag t isNamed

variable {commit : CheckoutCommitBoo} {trace : List (Event Op Choice Sys)} {α : Type}

theorem ownContract_must {req : Req}
    (own : req = .checkoutCommit commit → WritesOwn (normalizeEtag commit.etag) o c s)
    (answer : ∀ t, o.answer? = some (.checkoutCommit commit 0 t) →
      named t ∧ s.TripOf (normalizeEtag commit.etag) t) (here : req = .checkoutCommit commit) :
    (ownContract named).must req trace o c s := by
  rintro commit' rfl
  cases here
  exact ⟨otherTagsKept_exec (own rfl), answer⟩

/-- The operation of a commit is about its own tag once it has read the row of a ticket. -/
def OwnAfterRead (commit : CheckoutCommitBoo) (t : Int) (o : Op) : Prop :=
  ∀ c s, s.TripOf (normalizeEtag commit.etag) t → OwnReads (.checkoutCommit commit) o c s →
    WritesOwn (normalizeEtag commit.etag) o c s ∧
      ∀ t', o.answer? = some (.checkoutCommit commit 0 t') → t' = t

theorem ownSafe_of_read {t : Int} {p : Program α} (only : p.Only (OwnAfterRead commit t))
    (isNamed : named t) (trip : s.TripOf (normalizeEtag commit.etag) t) :
    (ownContract named).Safe (.checkoutCommit commit) p (fun _ _ _ => True) trace s := by
  have safe : (ownContract named).Safe (.checkoutCommit commit) p
      (fun _ _ s => s.TripOf (normalizeEtag commit.etag) t) trace s := by
    have relied : ∀ tr s s', s.TripOf (normalizeEtag commit.etag) t →
        (ownContract named).rely (.checkoutCommit commit) tr s s' → (ownContract named).inv s' →
        s'.TripOf (normalizeEtag commit.etag) t := fun _ _ _ trip rely _ => rely _ _ isNamed trip
    refine Contract.safe_of_only (J := fun _ (s : Sys) => s.TripOf (normalizeEtag commit.etag) t)
      only trip relied ?_
    intro tr s o c after trip wf may
    obtain ⟨own, answer⟩ := after c s trip may.2.1
    refine ⟨ownContract_must (fun _ => own) (fun t' answered => ?_) rfl, wellFormed_exec wf,
      tripOf_exec isNamed may.1 trip⟩
    exact (answer t' answered) ▸ ⟨isNamed, trip⟩
  exact safe.mono fun _ _ _ _ => trivial

theorem ownSafe_perform {next : o.Res → Program α}
    {post : α → List (Event Op Choice Sys) → Sys → Prop}
    (silent : ∀ c s, OwnReads (.checkoutCommit commit) o c s →
      WritesOwn (normalizeEtag commit.etag) o c s ∧
        ∀ t, o.answer? ≠ some (.checkoutCommit commit 0 t))
    (rest : ∀ c s tr, s.cache.WellFormed → OwnReads (.checkoutCommit commit) o c s →
      ReadsNamed named (.checkoutCommit commit) o →
      (ownContract named).Safe (.checkoutCommit commit) (next (o.exec c s).1) post tr
        (o.exec c s).2) :
    (ownContract named).Safe (.checkoutCommit commit) (perform o >>= next) post trace s := by
  refine Contract.safe_perform_bind.mpr fun s' _ wf c may => ?_
  obtain ⟨own, answer⟩ := silent c s' may.2.1
  refine ⟨ownContract_must (fun _ => own) (fun t answered => ?_) rfl, wellFormed_exec wf,
    rest c s' _ wf may.2.1 may.2.2⟩
  exact absurd answered (answer t)

theorem ownSafe_refused (t : Int) : (ownContract named).Safe (.checkoutCommit commit)
    (perform (.answer (.checkoutCommit commit notFoundRouteTransaction t)))
    (fun _ _ _ => True) trace s := by
  intro s' _ wf c _
  refine ⟨ownContract_must (fun _ => trivial) (fun t' answered => ?_) rfl, wf, trivial⟩
  cases answered

/-! ### Lookups -/

/-- For a lookup of a commit, everything carries its tag. -/
def ownGoals (tag : String) : LookupGoals where
  tag etag := etag = tag
  sync sync := normalizeEtag ((readString sync.etagNumber).getD "") = tag
  row row := normalizeEtag (row.etagNumber.getD "") = tag
  etdr e := normalizeEtag e.etagId = tag

theorem ownGoals_sync {syncs : List TransportTransStageSync} {sync : TransportTransStageSync}
    (plain : '\x00' ∉ (normalizeEtag commit.etag).toList)
    (found : syncFindLatestByEtag syncs (normalizeEtag commit.etag) = some sync) :
    (ownGoals (normalizeEtag commit.etag)).sync sync := by
  obtain ⟨row, -, column, rfl⟩ := mem_of_syncFindLatestByEtag found
  rw [trim_normalizeEtag] at column
  show normalizeEtag ((readString (readString row.etagNumber)).getD "") = _
  rw [column, readString_readString_getD plain (trim_normalizeEtag _),
    normalizeEtag_normalizeEtag plain]

theorem ownKept (named : Int → Prop) (plain : '\x00' ∉ (normalizeEtag commit.etag).toList) :
    LookupKept (ownContract named) (.checkoutCommit commit) (fun s => s.cache.WellFormed)
      (ownGoals (normalizeEtag commit.etag)) where
  others _ _ _ _ _ wf := wf
  read tr s o c read wf _ may := by
    have own : WritesOwn (normalizeEtag commit.etag) o c s := by
      cases read with
      | insertRow ok env ticketId id => exact ok
      | fill tag ok refTransId =>
        cases tag
        exact normalizeEtag_normalizeEtag plain
      | _ => trivial
    refine ⟨ownContract_must (fun _ => own) (fun t answered => ?_) rfl, wellFormed_exec wf,
      wellFormed_exec wf⟩
    rw [(show LookupOp o by cases read <;> constructor).answer?_eq_none] at answered
    cases answered
  save tr s write c ok wf _ may := by
    refine ⟨ownContract_must (fun _ => ⟨ok, may.2.1⟩) (fun t answered => ?_) rfl,
      wellFormed_exec wf, wellFormed_exec wf⟩
    cases answered
  normalized etag tag := by
    cases tag
    exact normalizeEtag_normalizeEtag plain
  sync tr s c etag sync tag _ _ found := by
    cases tag
    exact ownGoals_sync plain found
  latest s etag row tag _ _ column := by
    cases tag
    show normalizeEtag ((readString row.etagNumber).getD "") = _
    rw [column, readString_getD plain (trim_normalizeEtag _), normalizeEtag_normalizeEtag plain]
  byId tr s c id row _ may found := may.2.1 row found
  record row now ok := ok
  cached s key e tag wf cached := by
    cases tag
    exact wf.key_eq cached

/-! ### The commit -/

theorem commitStage_own (etdr : Etdr) (stage : TransportTransactionStage) (t : Int) :
    (commitStage commit etdr stage t).Only (OwnAfterRead commit t) := by
  have silent : ∀ {o : Op}, (∀ c s, WritesOwn (normalizeEtag commit.etag) o c s) →
      o.answer? = none → OwnAfterRead commit t o := by
    intro o own none c s _ _
    refine ⟨own c s, fun t' answered => ?_⟩
    rw [none] at answered
    cases answered
  have query : ∀ q, OwnAfterRead commit t (.ask q) := fun q => silent (fun _ _ => trivial) rfl
  have read : ∀ {o : Op}, (∀ c s, OwnReads (.checkoutCommit commit) o c s →
      WritesOwn (normalizeEtag commit.etag) o c s) → o.answer? = none →
      OwnAfterRead commit t o := by
    intro o own none c s _ reads
    refine ⟨own c s reads, fun t' answered => ?_⟩
    rw [none] at answered
    cases answered
  -- the account transaction is written by the id in the record, whatever ticket it is of
  have account : ∀ id now, (commitAccount id now).Only (OwnAfterRead commit t) := by
    intro id now
    unfold commitAccount
    split
    · trivial
    · split
      · refine (only_ask_bind _ _).mpr ⟨query _, fun data => ?_⟩
        split
        · split
          · exact (only_perform_bind _ _).mpr ⟨read (fun _ _ own => own) rfl, fun _ => trivial⟩
          · trivial
        · trivial
      · trivial
  have update : ∀ cols, OwnAfterRead commit t (.stageUpdateCheckoutCommit t cols) := by
    rintro cols c s ⟨row, stored, eq⟩ _
    refine ⟨fun row' stored' => ?_, fun t' answered => by cases answered⟩
    cases Option.mem_unique stored stored'
    exact eq
  have clear : (clearEtdrAfterTransactionComplete t).Only (OwnAfterRead commit t) := by
    refine (only_perform_bind _ _).mpr ⟨read (fun _ _ own => own) rfl, fun _ => ?_⟩
    refine (only_perform_bind _ _).mpr ⟨silent (fun _ _ => trivial) rfl, fun _ => ?_⟩
    exact (only_perform _).mpr (silent (fun _ _ => trivial) rfl)
  refine (only_ask_bind _ _).mpr ⟨query _, fun env => (account _ _).bind fun _ => ?_⟩
  refine (only_perform_bind _ _).mpr ⟨update _, fun _ => ?_⟩
  refine (only_perform_bind _ _).mpr ⟨silent (fun _ _ => trivial) rfl, fun _ => ?_⟩
  refine clear.bind fun _ => (only_perform _).mpr fun c s _ _ => ⟨trivial, fun t' answered => ?_⟩
  cases answered
  rfl

theorem checkoutCommitEtdr_own (etdr : Etdr) (t : Int) :
    (ownContract named).Safe (.checkoutCommit commit) (checkoutCommitEtdr commit etdr t)
      (fun _ _ _ => True) trace s := by
  unfold checkoutCommitEtdr
  split
  · exact ownSafe_refused t
  · refine ownSafe_perform (fun _ _ _ => ⟨trivial, fun _ answered => by cases answered⟩) ?_
    intro c s tr _ reads isNamed
    split
    · next stage found =>
      obtain ⟨row, stored, -⟩ := StageTable.findById_eq_some (Choice.eq_of_ok found)
      -- from here on the row of the ticket keeps the tag of the commit
      exact ownSafe_of_read (commitStage_own etdr stage t) isNamed ⟨row, stored, reads row stored⟩
    · exact ownSafe_refused t

theorem processCheckoutCommit_own (plain : '\x00' ∉ (normalizeEtag commit.etag).toList)
    (wf : s.cache.WellFormed) :
    (ownContract named).Safe (.checkoutCommit commit) (processCheckoutCommit commit)
      (fun _ _ _ => True) trace s := by
  have kept := ownKept named plain
  have ticket : (ownContract named).Safe (.checkoutCommit commit) (checkoutCommitTicket commit)
      (fun _ _ _ => True) trace s := by
    unfold checkoutCommitTicket
    split
    · trivial
    · exact Contract.safe_bind.mpr ((kept.resolveLatestEtdr rfl wf).mono fun _ _ _ _ => trivial)
  refine Contract.safe_bind.mpr (ticket.mono fun t tr s _ => ?_)
  split
  · exact ownSafe_refused _
  · have record : ∀ tr s, (ownContract named).Safe (.checkoutCommit commit)
        (checkoutCommitRecord commit t) (fun _ _ _ => True) tr s := by
      intro tr s
      refine ownSafe_perform (fun _ _ _ => ⟨trivial, fun _ answered => by cases answered⟩) ?_
      intro c s tr wf _ _
      split
      · trivial
      · exact Contract.safe_bind.mpr ((kept.resolveLatestEtdr rfl (wf.getByTicketId _ _ _)).mono
          fun _ _ _ _ => trivial)
    refine Contract.safe_bind.mpr ((record _ _).mono fun found tr s _ => ?_)
    split
    · exact ownSafe_refused _
    · exact checkoutCommitEtdr_own _ t

/-- Runs in which commits read what carries their tag keep the contract. -/
theorem ownContract_sound (named : Int → Prop) {cond : BackendPool → BackendLabel → Prop}
    (plain : ∀ pool req, cond pool (.start req) → PlainTag req)
    (own : ∀ pool l, cond pool l →
      System.EachAct (fun req _ o c s => TagKept named o s ∧ OwnReads req o c s ∧
        ReadsNamed named req o) pool l) :
    (ownContract named).Sound cond where
  start pool req wf meets := by
    have other : (∀ commit, req ≠ .checkoutCommit commit) →
        (ownContract named).Safe req (backend.prog req) (fun _ _ _ => True) [] pool.state := by
      intro other
      refine Contract.safe_of_only (P := fun _ => True) (Prog.Only.of_forall (fun _ => trivial) _)
        trivial (fun _ _ _ _ _ _ => trivial) fun tr s o c _ _ wf _ => ?_
      exact ⟨fun commit here => absurd here (other commit), wellFormed_exec wf, trivial⟩
    cases req with
    | checkoutCommit commit => exact processCheckoutCommit_own (plain _ _ meets) wf
    | _ => exact other fun _ eq => by cases eq
  own pool i c req trace o next meets found := own _ _ meets req trace o next found
  others pool i c req trace o next _ _ _ _ _ meets found _ _ _ _ tag t isNamed trip :=
    tripOf_exec isNamed (own _ _ meets req trace o next found).1 trip

end TollBackend
