import MiniOgas.BoundedList
import MiniOgas.Dictionary
import Mathlib.Algebra.Order.Ring.Rat
import Mathlib.Tactic.Linarith

namespace Sliding

variable {length now later : ℚ} {passed kept : List ℚ}

/-- The times of a window of a length that ends now. -/
def count (length now : ℚ) (passed : List ℚ) : Nat :=
  passed.countP fun time => now - length ≤ time ∧ time ≤ now

def trim (length now : ℚ) (kept : List ℚ) : List ℚ := kept.dropWhile (length < now - ·)

/-- The times that are kept are the last that passed, and the others are out of the window. -/
structure Keeps (length now : ℚ) (passed kept : List ℚ) : Prop where
  suffix : ∃ gone, passed = gone ++ kept ∧ ∀ time ∈ gone, length < now - time
  ordered : passed.Pairwise (· ≤ ·)
  past : ∀ time ∈ passed, time ≤ now

theorem keeps_nil (length now : ℚ) : Keeps length now [] [] :=
  ⟨⟨[], rfl, by simp⟩, .nil, by simp⟩

theorem Keeps.mono (keeps : Keeps length now passed kept) (passes : now ≤ later) :
    Keeps length later passed kept := by
  obtain ⟨gone, split, outside⟩ := keeps.suffix
  refine ⟨⟨gone, split, fun time member => ?_⟩, keeps.ordered, fun time member => ?_⟩
  · have := outside time member
    linarith
  · exact (keeps.past time member).trans passes

theorem Keeps.trim (keeps : Keeps length now passed kept) :
    Keeps length now passed (trim length now kept) := by
  obtain ⟨gone, split, outside⟩ := keeps.suffix
  refine ⟨⟨gone ++ kept.takeWhile (length < now - ·), ?_, fun time member => ?_⟩,
    keeps.ordered, keeps.past⟩
  · rw [List.append_assoc, Sliding.trim, List.takeWhile_append_dropWhile, split]
  · rcases List.mem_append.mp member with gone | old
    · exact outside time gone
    · simpa using List.all_eq_true.mp List.all_takeWhile time old

theorem Keeps.length_trim (keeps : Keeps length now passed kept) :
    (Sliding.trim length now kept).length = count length now passed := by
  obtain ⟨gone, split, outside⟩ := keeps.trim.suffix
  have recent : ∀ time ∈ Sliding.trim length now kept, now - length ≤ time := by
    have ordered : (Sliding.trim length now kept).Pairwise (· ≤ ·) := by
      have := keeps.ordered
      rw [split] at this
      exact (List.pairwise_append.mp this).2.1
    cases htrim : Sliding.trim length now kept with
    | nil => simp
    | cons first rest =>
      have head : ¬ length < now - first := by
        have first := List.head?_dropWhile_not (length < now - ·) kept
        rw [Sliding.trim] at htrim
        rw [htrim] at first
        simpa using first
      intro time member
      rw [htrim] at ordered
      rcases List.mem_cons.mp member with rfl | member
      · linarith
      · have := List.rel_of_pairwise_cons ordered member
        linarith
  rw [count, split, List.countP_append, List.countP_eq_zero.mpr, Nat.zero_add,
    List.countP_eq_length.mpr]
  · intro time member
    have past := keeps.past time (by rw [split]; exact List.mem_append_right _ member)
    exact decide_eq_true ⟨recent time member, past⟩
  · intro time member
    have := outside time member
    simp only [decide_eq_true_eq, not_and]
    intro inside
    linarith

theorem Keeps.pass (keeps : Keeps length now passed kept) :
    Keeps length now (passed ++ [now]) (kept ++ [now]) := by
  obtain ⟨gone, split, outside⟩ := keeps.suffix
  refine ⟨⟨gone, by rw [split, List.append_assoc], outside⟩, ?_, fun time member => ?_⟩
  · refine List.pairwise_append.mpr ⟨keeps.ordered, List.pairwise_singleton _ _, ?_⟩
    intro time member last same
    rw [List.mem_singleton.mp same]
    exact keeps.past time member
  · rcases List.mem_append.mp member with member | member
    · exact keeps.past time member
    · exact (List.mem_singleton.mp member).le

theorem Keeps.drop (keeps : Keeps length now passed kept)
    (stale : ∀ last ∈ kept.getLast?, length < now - last) : Keeps length now passed [] := by
  obtain ⟨gone, split, outside⟩ := keeps.suffix
  refine ⟨⟨passed, (List.append_nil _).symm, fun time member => ?_⟩, keeps.ordered, keeps.past⟩
  rcases List.eq_nil_or_concat kept with rfl | ⟨front, last, rfl⟩
  · rw [split, List.append_nil] at member
    exact outside time member
  · have out := stale last (by simp)
    have ordered := keeps.ordered
    have latest : time ≤ last := by
      rw [split, List.concat_eq_append, ← List.append_assoc] at ordered member
      rcases List.mem_append.mp member with member | member
      · exact (List.pairwise_append.mp ordered).2.2 time member last (by simp)
      · exact (List.mem_singleton.mp member).le
    linarith

end Sliding

namespace MiniOgas

/-- A name of a bucket, which has no colon in it: `api` and `auth-login`. -/
structure Bucket where
  name : String
  plain : ':' ∉ name.toList

/-- A request that is checked: its bucket, `request.client.host` and `time.monotonic()`. -/
structure RateRequest where
  bucket : Bucket
  host : Option String
  now : ℚ

def RateRequest.client (request : RateRequest) : String := request.host.getD "unknown"

def RateRequest.key (request : RateRequest) : String :=
  request.bucket.name ++ ":" ++ request.client

/-- `RATE_HISTORY` and `_RATE_CHECK_COUNT`. -/
structure RateState where
  history : Dictionary String (List ℚ)
  checkCount : Nat

def RateState.historyOf (state : RateState) (key : String) : List ℚ :=
  (state.history.get? key).getD []

structure RateRefusal where
  status : Nat
  detail : String
deriving DecidableEq

section Limiter

variable (rateLimitPerMinute : Int)

def staleHistory (now : ℚ) (values : List ℚ) : Bool := values.getLast?.all (120 < now - ·)

/-- The end of `_rate_limit`, which deletes the stale histories at every 500th request. -/
def sweepHistories (now : ℚ) (state : RateState) : RateState :=
  if state.checkCount % 500 = 0 then
    { state with history := state.history.keepIf fun _ values => !staleHistory now values }
  else state

/-- `_rate_limit` up to its deletion of stale histories. -/
def admitRequest (state : RateState) (request : RateRequest) : Option RateRefusal × RateState :=
  let history := Sliding.trim 60 request.now (state.historyOf request.key)
  if rateLimitPerMinute ≤ history.length then
    (some ⟨429, "rate limit exceeded"⟩,
      { state with history := state.history.set request.key history })
  else
    (none, ⟨state.history.set request.key (history ++ [request.now]), state.checkCount + 1⟩)

def rateLimit (state : RateState) (request : RateRequest) : Option RateRefusal × RateState :=
  match admitRequest rateLimitPerMinute state request with
  | (some refusal, state) => (some refusal, state)
  | (none, state) => (none, sweepHistories request.now state)

def rateAnswers (limiter : RateState → RateRequest → Option RateRefusal × RateState) :
    RateState → List RateRequest → List (RateRequest × Option RateRefusal)
  | _, [] => []
  | state, request :: requests =>
    (request, (limiter state request).1) ::
      rateAnswers limiter (limiter state request).2 requests

def RateState.empty : RateState := ⟨.empty, 0⟩

def RateRequest.SameClient (request other : RateRequest) : Prop :=
  request.bucket.name = other.bucket.name ∧ request.client = other.client

instance (request other : RateRequest) : Decidable (request.SameClient other) :=
  inferInstanceAs (Decidable (_ ∧ _))

/-- The requests of a client that were admitted in the closed window before a request. -/
def admittedInWindow (log : List (RateRequest × Option RateRefusal)) (request : RateRequest) :
    Nat :=
  log.countP fun earlier => earlier.2 = none ∧ earlier.1.SameClient request ∧
    request.now - 60 ≤ earlier.1.now ∧ earlier.1.now ≤ request.now

/-- The answer of an exact sliding window. -/
def windowAnswer (log : List (RateRequest × Option RateRefusal)) (request : RateRequest) :
    Option RateRefusal :=
  if admittedInWindow log request < rateLimitPerMinute then none
  else some ⟨429, "rate limit exceeded"⟩

def windowAnswers : List (RateRequest × Option RateRefusal) → List RateRequest →
    List (RateRequest × Option RateRefusal)
  | _, [] => []
  | log, request :: requests =>
    let answered := (request, windowAnswer rateLimitPerMinute log request)
    answered :: windowAnswers (log ++ [answered]) requests

end Limiter

section Laws

variable {rateLimitPerMinute : Int} {request other : RateRequest} {state : RateState} {now : ℚ}
  {log : List (RateRequest × Option RateRefusal)} {requests : List RateRequest} {key : String}

theorem key_eq_iff : request.key = other.key ↔ request.SameClient other := by
  constructor
  · intro same
    have letters := congrArg String.toList same
    have parts (request : RateRequest) : request.key.toList =
        request.bucket.name.toList ++ ':' :: request.client.toList := by
      simp [RateRequest.key, String.toList_append]
    rw [parts, parts] at letters
    obtain ⟨bucket, client⟩ := Bounded.append_cons_inj letters request.bucket.plain
      other.bucket.plain
    exact ⟨String.toList_inj.mp bucket, String.toList_inj.mp client⟩
  · rintro ⟨bucket, client⟩
    rw [RateRequest.key, RateRequest.key, bucket, client]

def admittedTimes (log : List (RateRequest × Option RateRefusal)) (key : String) : List ℚ :=
  (log.filter fun earlier => earlier.2 = none ∧ earlier.1.key = key).map (·.1.now)

def RateSound (log : List (RateRequest × Option RateRefusal)) (now : ℚ) (state : RateState) :
    Prop :=
  ∀ key, Sliding.Keeps 60 now (admittedTimes log key) (state.historyOf key)

theorem count_admittedTimes :
    Sliding.count 60 request.now (admittedTimes log request.key) =
      admittedInWindow log request := by
  rw [Sliding.count, admittedTimes, List.countP_map, List.countP_filter, admittedInWindow]
  refine List.countP_congr fun earlier _ => ?_
  simp only [Function.comp_apply, Bool.and_eq_true, decide_eq_true_eq, key_eq_iff]
  tauto

theorem admittedTimes_refused {refusal : RateRefusal} :
    admittedTimes (log ++ [(request, some refusal)]) key = admittedTimes log key := by
  simp [admittedTimes, List.filter_append]

theorem admittedTimes_admitted : admittedTimes (log ++ [(request, none)]) key =
    admittedTimes log key ++ if request.key = key then [request.now] else [] := by
  by_cases same : request.key = key <;> simp [admittedTimes, List.filter_append, same]

theorem historyOf_set {values : List ℚ} {checkCount : Nat} :
    RateState.historyOf ⟨state.history.set key values, checkCount⟩ =
      fun other => if other = key then values else state.historyOf other := by
  funext other
  rw [RateState.historyOf, Dictionary.get?_set]
  split <;> rfl

/-- A request is answered by the window, and the histories stay sound. -/
def Limits (rateLimitPerMinute : Int)
    (limiter : RateState → RateRequest → Option RateRefusal × RateState) : Prop :=
  ∀ log state request now, RateSound log now state → now ≤ request.now →
    (limiter state request).1 = windowAnswer rateLimitPerMinute log request ∧
      RateSound (log ++ [(request, (limiter state request).1)]) request.now
        (limiter state request).2

theorem limits_admitRequest : Limits rateLimitPerMinute (admitRequest rateLimitPerMinute) := by
  intro log state request now sound passes
  have keeps (key : String) := (sound key).mono passes
  have room : (Sliding.trim 60 request.now (state.historyOf request.key)).length =
      admittedInWindow log request := by
    rw [(keeps request.key).length_trim, count_admittedTimes]
  simp only [admitRequest, windowAnswer, ← room]
  split
  next full =>
    refine ⟨(if_neg (by omega)).symm, fun key => ?_⟩
    rw [admittedTimes_refused, historyOf_set]
    dsimp only
    split
    next same =>
      rw [same]
      exact (keeps request.key).trim
    next => exact keeps key
  next free =>
    refine ⟨(if_pos (by omega)).symm, fun key => ?_⟩
    rw [admittedTimes_admitted, historyOf_set]
    dsimp only
    split
    next same =>
      subst same
      rw [if_pos rfl]
      exact (keeps request.key).trim.pass
    next other =>
      rw [if_neg (Ne.symm other), List.append_nil]
      exact keeps key

theorem sweepHistories_sound (sound : RateSound log now state) :
    RateSound log now (sweepHistories now state) := by
  unfold sweepHistories
  split
  next =>
    intro key
    have keeps := sound key
    unfold RateState.historyOf at keeps ⊢
    cases kept : (state.history.keepIf fun _ values => !staleHistory now values).get? key with
    | some values =>
      obtain ⟨found, -⟩ := Dictionary.get?_keepIf_eq_some_iff.mp kept
      rwa [found] at keeps
    | none =>
      cases found : state.history.get? key with
      | none => rwa [found] at keeps
      | some values =>
        rw [found] at keeps
        refine keeps.drop fun last hlast => ?_
        have stale : staleHistory now values = true := by
          by_contra fresh
          have := Dictionary.get?_keepIf_eq_some_iff
            (p := fun _ values => !staleHistory now values).mpr ⟨found, by simpa using fresh⟩
          simp [kept] at this
        have hlast : values.getLast? = some last := hlast
        have : 120 < now - last := by simpa [staleHistory, hlast] using stale
        linarith
  next => exact sound

theorem limits_rateLimit : Limits rateLimitPerMinute (rateLimit rateLimitPerMinute) := by
  intro log state request now sound passes
  have limits : Limits rateLimitPerMinute (admitRequest rateLimitPerMinute) := limits_admitRequest
  have limits := limits log state request now sound passes
  unfold rateLimit
  cases h : admitRequest rateLimitPerMinute state request with
  | mk answer later =>
    rw [h] at limits
    cases answer with
    | some refusal => exact limits
    | none => exact ⟨limits.1, sweepHistories_sound limits.2⟩

theorem rateAnswers_eq {limiter : RateState → RateRequest → Option RateRefusal × RateState}
    (limits : Limits rateLimitPerMinute limiter) (sound : RateSound log now state)
    (clock : (requests.map (·.now)).Pairwise (· ≤ ·))
    (passes : ∀ request ∈ requests, now ≤ request.now) :
    rateAnswers limiter state requests = windowAnswers rateLimitPerMinute log requests := by
  induction requests generalizing log state now with
  | nil => rfl
  | cons request requests ih =>
    obtain ⟨answer, sound⟩ := limits log state request now sound (passes request (by simp))
    rw [List.map_cons, List.pairwise_cons] at clock
    rw [rateAnswers, windowAnswers, ih sound clock.2, answer]
    intro later member
    exact clock.1 _ (List.mem_map_of_mem member)

theorem windowAnswers_split {before after : List (RateRequest × Option RateRefusal)}
    {answer : Option RateRefusal}
    (split : windowAnswers rateLimitPerMinute log requests = before ++ (request, answer) :: after) :
    answer = windowAnswer rateLimitPerMinute (log ++ before) request := by
  induction requests generalizing log before with
  | nil => simp [windowAnswers] at split
  | cons first requests ih =>
    cases before with
    | nil =>
      have heads := (List.cons.inj split).1
      rw [List.append_nil, ← (Prod.mk.inj heads).1]
      exact (Prod.mk.inj heads).2.symm
    | cons earlier before =>
      obtain ⟨rfl, rest⟩ := List.cons.inj split
      rw [ih rest, List.append_assoc]
      rfl

def sampleCheck (now : ℚ) : RateRequest := ⟨⟨"api", by decide⟩, some "10.0.0.1", now⟩

end Laws

end MiniOgas
