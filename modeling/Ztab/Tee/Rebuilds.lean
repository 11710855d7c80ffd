import Ztab.Tee.TlsCredentials

set_option autoImplicit false

/-!
# Rebuilding the credentials after a failure

The hit test of `GetOrCreateSSLCtx` looks at the PEM text and the time, and both are set before the
context is created and loaded. When that last stage fails, the cache holds no context and passes
for fresh, and for ten seconds every call is answered with a null pointer without trying anything.
-/

namespace Ztab

inductive RebuildStage where
  | keyGeneration | tokenFetch | certificateGeneration | sslCtx
  deriving DecidableEq, Repr

namespace SslCtxCall

variable {Key : Type} (ssl : BoringSsl Key) (call : SslCtxCall Key)

-- Key, token and certificate: what a rebuild does before it writes to the cache.
def credentials : Option (Bytes × Bytes) :=
  let (pkey, hash) := generateKeyAndGetHash ssl call.keygenFails call.key
  match hash with
  | .error _ => none
  | .ok hash =>
    match call.getAttestationToken (base64UrlEncode hash) with
    | .error _ => none
    | .ok token => (generateCertificate ssl call.certificateFails pkey token).toOption

def context (pems : Bytes × Bytes) : Option (SslCtx Key) :=
  CredentialCache.loadSslCtx ssl call.ctxFails { cachedCertPem := pems.1, cachedKeyPem := pems.2 }

def FailsAt : RebuildStage → Prop
  | .keyGeneration =>
    ∃ status, (generateKeyAndGetHash ssl call.keygenFails call.key).2 = .error status
  | .tokenFetch =>
    ∃ hash status, (generateKeyAndGetHash ssl call.keygenFails call.key).2 = .ok hash ∧
      call.getAttestationToken (base64UrlEncode hash) = .error status
  | .certificateGeneration =>
    ∃ hash token status, (generateKeyAndGetHash ssl call.keygenFails call.key).2 = .ok hash ∧
      call.getAttestationToken (base64UrlEncode hash) = .ok token ∧
      generateCertificate ssl call.certificateFails
        (generateKeyAndGetHash ssl call.keygenFails call.key).1 token = .error status
  | .sslCtx => ∃ pems, call.credentials ssl = some pems ∧ call.context ssl pems = none

def Spoils : Prop :=
  ∃ pems, call.credentials ssl = some pems ∧ pems.1 ≠ [] ∧ call.context ssl pems = none

variable {ssl call}

theorem failsAt_of_credentials_none (refused : call.credentials ssl = none) :
    ∃ stage, call.FailsAt ssl stage := by
  unfold credentials at refused
  cases hashed : (generateKeyAndGetHash ssl call.keygenFails call.key).2 with
  | error status => exact ⟨.keyGeneration, status, hashed⟩
  | ok hash =>
    simp only [hashed] at refused
    cases asked : call.getAttestationToken (base64UrlEncode hash) with
    | error status => exact ⟨.tokenFetch, hash, status, hashed, asked⟩
    | ok token =>
      simp only [asked] at refused
      cases signed : generateCertificate ssl call.certificateFails
          (generateKeyAndGetHash ssl call.keygenFails call.key).1 token with
      | error status => exact ⟨.certificateGeneration, hash, token, status, hashed, asked, signed⟩
      | ok pems =>
        rw [signed] at refused
        cases refused

end SslCtxCall

section Rebuilds

variable {Key : Type} {ssl : BoringSsl Key} {cache : CredentialCache Key} {call : SslCtxCall Key}

theorem getOrCreateSslCtx_hit (fresh : cache.Fresh call.start) :
    cache.getOrCreateSslCtx ssl call = (cache, cache.cachedSslCtx) := by
  simp [CredentialCache.getOrCreateSslCtx, fresh]

-- A rebuild fails in its first three stages and leaves no trace, or it writes the new texts and the
-- time whether or not a context comes of them.
theorem getOrCreateSslCtx_stale (stale : ¬ cache.Fresh call.start) :
    cache.getOrCreateSslCtx ssl call =
      match call.credentials ssl with
      | none => (cache, none)
      | some pems =>
        (⟨call.finish, pems.1, pems.2, call.context ssl pems⟩, call.context ssl pems) := by
  simp only [CredentialCache.getOrCreateSslCtx, stale, if_false, SslCtxCall.credentials]
  cases hashed : (generateKeyAndGetHash ssl call.keygenFails call.key).2 with
  | error status => rfl
  | ok hash =>
    cases asked : call.getAttestationToken (base64UrlEncode hash) with
    | error status => simp only [asked]
    | ok token =>
      simp only [asked]
      cases generateCertificate ssl call.certificateFails
          (generateKeyAndGetHash ssl call.keygenFails call.key).1 token with
      | error status => rfl
      | ok pems => rfl

theorem getOrCreateSslCtx_refused (stale : ¬ cache.Fresh call.start)
    (refused : call.credentials ssl = none) : cache.getOrCreateSslCtx ssl call = (cache, none) := by
  rw [getOrCreateSslCtx_stale stale, refused]

theorem getOrCreateSslCtx_generated {pems : Bytes × Bytes} (stale : ¬ cache.Fresh call.start)
    (generated : call.credentials ssl = some pems) :
    cache.getOrCreateSslCtx ssl call =
      (⟨call.finish, pems.1, pems.2, call.context ssl pems⟩, call.context ssl pems) := by
  rw [getOrCreateSslCtx_stale stale, generated]

def cacheAfter (ssl : BoringSsl Key) (calls : List (SslCtxCall Key)) : CredentialCache Key :=
  (credentialMachine ssl).after (credentialMachine ssl).initial calls

/-- A call that returns null went through a rebuild of its own, and a stage of it failed. -/
def NullOnlyByOwnFailure (ssl : BoringSsl Key) (calls : List (SslCtxCall Key)) : Prop :=
  ∀ earlier call later, calls = earlier ++ call :: later →
    ((cacheAfter ssl earlier).getOrCreateSslCtx ssl call).2 = none →
    ¬ (cacheAfter ssl earlier).Fresh call.start ∧ ∃ stage, call.FailsAt ssl stage

/-- After a failed call the next one rebuilds, or serves a context that some call of the run built. -/
def RetriesAfterFailure (ssl : BoringSsl Key) (calls : List (SslCtxCall Key)) : Prop :=
  ∀ earlier failed next later, calls = earlier ++ failed :: next :: later →
    ((cacheAfter ssl earlier).getOrCreateSslCtx ssl failed).2 = none →
    ¬ (cacheAfter ssl (earlier ++ [failed])).Fresh next.start ∨
      ∃ ctx, ((cacheAfter ssl (earlier ++ [failed])).getOrCreateSslCtx ssl next).2 = some ctx ∧
        ∃ before origin after, earlier ++ [failed] = before ++ origin :: after ∧
          Generates ssl (cacheAfter ssl before) origin ctx

/-- Once a call has stored credentials that no context could be made of, no call comes within ten
seconds of it until the credentials have been generated anew. -/
def SpoiledOutwaited (ssl : BoringSsl Key) (calls : List (SslCtxCall Key)) : Prop :=
  ∀ before spoiler between next later, calls = before ++ spoiler :: (between ++ next :: later) →
    ¬ (cacheAfter ssl before).Fresh spoiler.start → spoiler.Spoils ssl →
    (∀ call ∈ between, call.credentials ssl = none) →
    kCredentialSeconds ≤ next.start - spoiler.finish

-- A cache that can pass for fresh and has nothing to serve.
def Dead (cache : CredentialCache Key) (time : Int) : Prop :=
  cache.cachedSslCtx = none ∧ cache.cachedCertPem ≠ [] ∧ cache.cachedTime = time

theorem cacheAfter_append (calls : List (SslCtxCall Key)) (call : SslCtxCall Key) :
    cacheAfter ssl (calls ++ [call]) = ((cacheAfter ssl calls).getOrCreateSslCtx ssl call).1 :=
  (credentialMachine ssl).after_append _ _ _

theorem dead_of_spoils (stale : ¬ cache.Fresh call.start) (spoils : call.Spoils ssl) :
    Dead (cache.getOrCreateSslCtx ssl call).1 call.finish ∧
      (cache.getOrCreateSslCtx ssl call).2 = none := by
  obtain ⟨pems, generated, written, lost⟩ := spoils
  rw [getOrCreateSslCtx_generated stale generated]
  exact ⟨⟨lost, written, rfl⟩, lost⟩

theorem Dead.fresh {time now : Int} (dead : Dead cache time)
    (soon : now - time < kCredentialSeconds) : cache.Fresh now :=
  ⟨dead.2.2 ▸ soon, dead.2.1⟩

-- No call of the run finds the cache fresh and empty right after a failure.
def NoDeadHit (ssl : BoringSsl Key) (calls : List (SslCtxCall Key)) : Prop :=
  ∀ earlier failed next later time, calls = earlier ++ failed :: next :: later →
    ((cacheAfter ssl earlier).getOrCreateSslCtx ssl failed).2 = none →
    Dead (cacheAfter ssl (earlier ++ [failed])) time →
    ¬ (cacheAfter ssl (earlier ++ [failed])).Fresh next.start

theorem NullOnlyByOwnFailure.noDeadHit {calls : List (SslCtxCall Key)}
    (own : NullOnlyByOwnFailure ssl calls) : NoDeadHit ssl calls := by
  intro earlier failed next later time split missing dead fresh
  refine (own (earlier ++ [failed]) next later (by rw [split]; simp) ?_).1 fresh
  rw [getOrCreateSslCtx_hit fresh]
  exact dead.1

theorem RetriesAfterFailure.noDeadHit {calls : List (SslCtxCall Key)}
    (retries : RetriesAfterFailure ssl calls) : NoDeadHit ssl calls := by
  intro earlier failed next later time split missing dead fresh
  obtain stale | ⟨ctx, served, -⟩ := retries earlier failed next later split missing
  · exact stale fresh
  · rw [getOrCreateSslCtx_hit fresh, dead.1] at served
    cases served

-- The cache stays as the spoiler left it while only calls come that generate nothing.
theorem NoDeadHit.dead_after {calls before later : List (SslCtxCall Key)}
    {spoiler : SslCtxCall Key} (never : NoDeadHit ssl calls)
    (stale : ¬ (cacheAfter ssl before).Fresh spoiler.start) (spoils : spoiler.Spoils ssl)
    (between : List (SslCtxCall Key)) (refused : ∀ call ∈ between, call.credentials ssl = none)
    (split : calls = before ++ spoiler :: (between ++ later)) :
    ∃ earlier failed, before ++ spoiler :: between = earlier ++ [failed] ∧
      ((cacheAfter ssl earlier).getOrCreateSslCtx ssl failed).2 = none ∧
      Dead (cacheAfter ssl (earlier ++ [failed])) spoiler.finish := by
  induction between using List.reverseRecOn generalizing later with
  | nil =>
    obtain ⟨dead, missing⟩ := dead_of_spoils stale spoils
    refine ⟨before, spoiler, rfl, missing, ?_⟩
    rw [cacheAfter_append]
    exact dead
  | append_singleton between call ih =>
    obtain ⟨earlier, failed, same, missing, dead⟩ := @ih (call :: later)
      (fun other held => refused other (List.mem_append_left _ held)) (by rw [split]; simp)
    have stillStale := never earlier failed call later _
      (by rw [split, List.append_cons earlier, ← same]; simp) missing dead
    have unmoved := getOrCreateSslCtx_refused stillStale
      (refused call (List.mem_append_right _ (List.mem_singleton_self call)))
    refine ⟨earlier ++ [failed], call, ?_, by rw [unmoved], ?_⟩
    · rw [← same]
      simp
    · rw [cacheAfter_append, unmoved]
      exact dead

theorem NoDeadHit.spoiledOutwaited {calls : List (SslCtxCall Key)} (never : NoDeadHit ssl calls) :
    SpoiledOutwaited ssl calls := by
  intro before spoiler between next later split stale spoils refused
  obtain ⟨earlier, failed, same, missing, dead⟩ :=
    never.dead_after stale spoils between refused split
  by_contra soon
  refine never earlier failed next later _ ?_ missing dead (dead.fresh (not_le.mp soon))
  rw [split, List.append_cons earlier, ← same]
  simp

-- Where an empty cache comes from, and where a full one does.
structure Explained (ssl : BoringSsl Key) (calls : List (SslCtxCall Key)) : Prop where
  spoiled : (cacheAfter ssl calls).cachedSslCtx = none → (cacheAfter ssl calls).cachedCertPem ≠ [] →
    ∃ before spoiler between, calls = before ++ spoiler :: between ∧
      ¬ (cacheAfter ssl before).Fresh spoiler.start ∧ spoiler.Spoils ssl ∧
      (∀ call ∈ between, call.credentials ssl = none) ∧
      (cacheAfter ssl calls).cachedTime = spoiler.finish
  built : ∀ ctx, (cacheAfter ssl calls).cachedSslCtx = some ctx →
    ∃ before origin after, calls = before ++ origin :: after ∧
      Generates ssl (cacheAfter ssl before) origin ctx

-- Under the condition a hit has a context to serve.
theorem Explained.served {earlier later : List (SslCtxCall Key)} (explained : Explained ssl earlier)
    (outwaited : SpoiledOutwaited ssl (earlier ++ call :: later))
    (fresh : (cacheAfter ssl earlier).Fresh call.start) :
    ∃ ctx, (cacheAfter ssl earlier).cachedSslCtx = some ctx := by
  cases held : (cacheAfter ssl earlier).cachedSslCtx with
  | some ctx => exact ⟨ctx, rfl⟩
  | none =>
    obtain ⟨before, spoiler, between, same, stale, spoils, refused, time⟩ :=
      explained.spoiled held fresh.2
    have apart := outwaited before spoiler between call later (by rw [same]; simp) stale spoils refused
    have soon := fresh.1
    rw [time] at soon
    omega

theorem SpoiledOutwaited.explained (calls : List (SslCtxCall Key)) :
    ∀ later, SpoiledOutwaited ssl (calls ++ later) → Explained ssl calls := by
  induction calls using List.reverseRecOn with
  | nil =>
    intro later outwaited
    constructor
    · intro missing written
      exact absurd rfl written
    · intro ctx held
      cases held
  | append_singleton earlier call ih =>
    intro later outwaited
    rw [List.append_assoc] at outwaited
    have explained := ih ([call] ++ later) outwaited
    have extended : ∀ ctx, (cacheAfter ssl earlier).cachedSslCtx = some ctx →
        ∃ before origin after, earlier ++ [call] = before ++ origin :: after ∧
          Generates ssl (cacheAfter ssl before) origin ctx := by
      intro ctx held
      obtain ⟨before, origin, after, rfl, generates⟩ := explained.built ctx held
      exact ⟨before, origin, after ++ [call], by simp, generates⟩
    by_cases fresh : (cacheAfter ssl earlier).Fresh call.start
    next =>
      obtain ⟨ctx, held⟩ := explained.served outwaited fresh
      have unmoved : cacheAfter ssl (earlier ++ [call]) = cacheAfter ssl earlier := by
        rw [cacheAfter_append, getOrCreateSslCtx_hit fresh]
      constructor
      · intro missing
        rw [unmoved, held] at missing
        cases missing
      · rw [unmoved]
        exact extended
    next =>
      cases generated : call.credentials ssl with
      | none =>
        have unmoved : cacheAfter ssl (earlier ++ [call]) = cacheAfter ssl earlier := by
          rw [cacheAfter_append, getOrCreateSslCtx_refused fresh generated]
        constructor
        · rw [unmoved]
          intro missing written
          obtain ⟨before, spoiler, between, rfl, stale, spoils, refused, time⟩ :=
            explained.spoiled missing written
          refine ⟨before, spoiler, between ++ [call], by simp, stale, spoils, ?_, time⟩
          intro other among
          obtain old | new := List.mem_append.mp among
          · exact refused other old
          · rw [List.mem_singleton.mp new]
            exact generated
        · rw [unmoved]
          exact extended
      | some pems =>
        have rebuilt := getOrCreateSslCtx_generated fresh generated
        constructor
        · rw [cacheAfter_append, rebuilt]
          intro missing written
          exact ⟨earlier, call, [], rfl, fresh, ⟨pems, generated, written, missing⟩, by simp, rfl⟩
        · rw [cacheAfter_append, rebuilt]
          intro ctx held
          exact ⟨earlier, call, [], rfl, fresh, by rw [rebuilt]; exact held⟩

theorem SpoiledOutwaited.nullOnlyByOwnFailure {calls : List (SslCtxCall Key)}
    (outwaited : SpoiledOutwaited ssl calls) : NullOnlyByOwnFailure ssl calls := by
  intro earlier call later split missing
  subst split
  have stale : ¬ (cacheAfter ssl earlier).Fresh call.start := by
    intro fresh
    obtain ⟨ctx, held⟩ :=
      (SpoiledOutwaited.explained earlier (call :: later) outwaited).served outwaited fresh
    rw [getOrCreateSslCtx_hit fresh, held] at missing
    cases missing
  refine ⟨stale, ?_⟩
  cases generated : call.credentials ssl with
  | none => exact SslCtxCall.failsAt_of_credentials_none generated
  | some pems =>
    rw [getOrCreateSslCtx_generated stale generated] at missing
    exact ⟨.sslCtx, pems, generated, missing⟩

theorem SpoiledOutwaited.retriesAfterFailure {calls : List (SslCtxCall Key)}
    (outwaited : SpoiledOutwaited ssl calls) : RetriesAfterFailure ssl calls := by
  intro earlier failed next later split missing
  rw [List.append_cons] at split
  subst split
  have explained := SpoiledOutwaited.explained (earlier ++ [failed]) (next :: later) outwaited
  by_cases fresh : (cacheAfter ssl (earlier ++ [failed])).Fresh next.start
  next =>
    right
    obtain ⟨ctx, held⟩ := explained.served outwaited fresh
    exact ⟨ctx, by rw [getOrCreateSslCtx_hit fresh]; exact held, explained.built ctx held⟩
  next => exact .inl fresh

/-- Both ways of saying that a failed rebuild does not poison the cache come to one condition on
the calls. -/
theorem failed_rebuild_forgotten_iff (ssl : BoringSsl Key) (calls : List (SslCtxCall Key)) :
    (NullOnlyByOwnFailure ssl calls ↔ SpoiledOutwaited ssl calls) ∧
      (RetriesAfterFailure ssl calls ↔ SpoiledOutwaited ssl calls) :=
  ⟨⟨fun own => own.noDeadHit.spoiledOutwaited, fun outwaited => outwaited.nullOnlyByOwnFailure⟩,
    ⟨fun retries => retries.noDeadHit.spoiledOutwaited,
      fun outwaited => outwaited.retriesAfterFailure⟩⟩

end Rebuilds

-- The first call cannot load its certificate; the second comes five seconds later, and every
-- library call would succeed.
def spoiledCalls : List (SslCtxCall Bytes) :=
  [⟨20 * 1000000000, 21 * 1000000000, [1], fun _ => false, fun _ => .ok [7], fun _ => false,
      fun step => step = .useCertificate⟩,
    ⟨26 * 1000000000, 26 * 1000000000, [1], fun _ => false, fun _ => .ok [7], fun _ => false,
      fun _ => false⟩]

theorem spoiled_cache_answers_null : ¬ NullOnlyByOwnFailure smallSsl spoiledCalls := by
  intro own
  have attempted := (own (spoiledCalls.take 1) ⟨26 * 1000000000, 26 * 1000000000, [1],
    fun _ => false, fun _ => .ok [7], fun _ => false, fun _ => false⟩ [] rfl (by decide +kernel)).1
  exact attempted (by decide +kernel)

end Ztab
