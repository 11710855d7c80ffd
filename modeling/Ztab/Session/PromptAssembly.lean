import Ztab.Session.Indexes
import Ztab.Shared.Occurrences

set_option autoImplicit false

/-!
# The assembled prompt

What the worker sends is the policy's template with its placeholders filled in: the number of
participants, and their inputs in the order in which they joined, whatever the order in which the
hash map gives its entries.
-/

namespace Ztab

open Occurrences

section Filling

variable {replacements : List (String × String)} {text rest filled : List Char}

def Free (replacements : List (String × String)) (text : List Char) : Prop :=
  ∀ pair ∈ replacements, ¬ pair.1.toList <:+: text

/--
Every placeholder of the template is replaced and all else is kept. What stands for a placeholder
is not looked at again.
-/
inductive Filled (replacements : List (String × String)) : List Char → List Char → Prop where
  | kept {text : List Char} (free : Free replacements text) : Filled replacements text text
  | replaced {text rest filled : List Char} {pair : String × String} (free : Free replacements text)
      (listed : pair ∈ replacements) (following : Filled replacements rest filled) :
      Filled replacements (text ++ (pair.1.toList ++ rest)) (text ++ (pair.2.toList ++ filled))

structure Placeholders (replacements : List (String × String)) : Prop where
  opened : ∀ pair ∈ replacements, ∃ name, pair.1.toList = '\x7b' :: name ∧ '\x7b' ∉ name
  alone : ∀ pair ∈ replacements, ∀ other ∈ replacements, ∀ text,
    pair.1.toList <+: text → other.1.toList <+: text → pair = other

theorem strReplaceAll_skip (replacements : List (String × String)) (skip : Nat) (text : List Char) :
    strReplaceAll replacements skip text = strReplaceAll replacements 0 (text.drop skip) := by
  induction text generalizing skip with
  | nil => simp [strReplaceAll]
  | cons char rest ih =>
    cases skip with
    | zero => rfl
    | succ skip => exact ih skip

theorem strReplaceAll_cons (char : Char)
    (apart : ∀ pair ∈ replacements, ¬ pair.1.toList <+: char :: rest) :
    strReplaceAll replacements 0 (char :: rest) = char :: strReplaceAll replacements 0 rest := by
  have missed : replacements.find? (fun pair => pair.1.toList.isPrefixOf (char :: rest)) = none := by
    rw [List.find?_eq_none]
    intro pair listed begins
    exact apart pair listed (List.isPrefixOf_iff_prefix.mp begins)
  rw [strReplaceAll, missed]

theorem Placeholders.strReplaceAll (marks : Placeholders replacements) {pair : String × String}
    (listed : pair ∈ replacements) (rest : List Char) :
    strReplaceAll replacements 0 (pair.1.toList ++ rest) =
      pair.2.toList ++ strReplaceAll replacements 0 rest := by
  obtain ⟨name, opened, -⟩ := marks.opened pair listed
  have found : replacements.find? (fun other => other.1.toList.isPrefixOf ('\x7b' :: (name ++ rest))) =
      some pair := by
    have begins : pair.1.toList <+: '\x7b' :: (name ++ rest) := by
      rw [opened]
      exact List.prefix_append _ _
    cases first : replacements.find? (fun other => other.1.toList.isPrefixOf ('\x7b' :: (name ++ rest)))
    next =>
      have missed := List.find?_eq_none.mp first pair listed
      exact absurd (List.isPrefixOf_iff_prefix.mpr begins) missed
    next other =>
      have member := List.mem_of_find?_eq_some first
      have matched : other.1.toList <+: '\x7b' :: (name ++ rest) := by simpa using List.find?_some first
      rw [marks.alone other member pair listed _ matched begins]
  rw [opened, List.cons_append, Ztab.strReplaceAll, found]
  simp only [opened, List.length_cons, Nat.add_sub_cancel]
  rw [strReplaceAll_skip, List.drop_left]

-- No placeholder begins in a text that has none and ends after it.
theorem strReplaceAll_append (free : Free replacements text)
    (cut : ∀ pair ∈ replacements, Cut pair.1.toList text rest) :
    strReplaceAll replacements 0 (text ++ rest) = text ++ strReplaceAll replacements 0 rest := by
  induction text with
  | nil => rfl
  | cons char text ih =>
    have apart : ∀ pair ∈ replacements, ¬ pair.1.toList <+: char :: (text ++ rest) := by
      intro pair listed begins
      have inside := ((cut pair listed).prefix_iff (List.cons_ne_nil char text)).mp begins
      exact free pair listed inside.isInfix
    rw [List.cons_append, strReplaceAll_cons char apart, ih, List.cons_append]
    · intro pair listed inside
      exact free pair listed (List.infix_cons inside)
    · intro pair listed
      exact (cut pair listed).suffix (List.suffix_cons char text)

theorem Filled.eq_strReplaceAll (marks : Placeholders replacements)
    (made : Filled replacements text filled) : filled = strReplaceAll replacements 0 text := by
  induction made with
  | @kept text free =>
    have cut : ∀ pair ∈ replacements, Cut pair.1.toList text [] := by
      intro pair listed first second _ remaining _ inside
      exact remaining (List.prefix_nil.mp inside.2)
    simpa [strReplaceAll] using (strReplaceAll_append free cut).symm
  | @replaced text rest filled pair free listed following ih =>
    have cut : ∀ other ∈ replacements, Cut other.1.toList text (pair.1.toList ++ rest) := by
      intro other member
      obtain ⟨name, opened, -⟩ := marks.opened pair listed
      obtain ⟨interior, begun, apart⟩ := marks.opened other member
      rw [opened, List.cons_append]
      refine cut_of_head _ ?_
      rw [begun]
      exact apart
    rw [strReplaceAll_append free cut, marks.strReplaceAll listed, ← ih]

theorem Filled.cons (made : Filled replacements rest filled) (char : Char)
    (apart : ∀ pair ∈ replacements, ¬ pair.1.toList <+: char :: rest) :
    Filled replacements (char :: rest) (char :: filled) := by
  cases made with
  | kept free =>
    refine .kept fun pair listed inside => ?_
    rcases List.infix_cons_iff.mp inside with begins | later
    · exact apart pair listed begins
    · exact free pair listed later
  | @replaced text rest filled pair free listed following =>
    have longer : Free replacements (char :: text) := by
      intro other member inside
      rcases List.infix_cons_iff.mp inside with begins | later
      · exact apart other member (begins.trans (List.prefix_append (char :: text) _))
      · exact free other member later
    exact .replaced longer listed following

theorem filled_strReplaceAll (marks : Placeholders replacements) (text : List Char) :
    Filled replacements text (strReplaceAll replacements 0 text) := by
  induction length : text.length using Nat.strongRecOn generalizing text with
  | ind length ih =>
    subst length
    by_cases placed : ∃ pair ∈ replacements, pair.1.toList <+: text
    · obtain ⟨pair, listed, rest, rfl⟩ := placed
      obtain ⟨name, opened, -⟩ := marks.opened pair listed
      have shorter : rest.length < (pair.1.toList ++ rest).length := by
        simp only [opened, List.cons_append, List.length_cons, List.length_append]
        omega
      have empty : Free replacements [] := by
        intro other member inside
        obtain ⟨interior, begun, -⟩ := marks.opened other member
        rw [begun] at inside
        cases List.eq_nil_of_infix_nil inside
      rw [marks.strReplaceAll listed]
      exact .replaced empty listed (ih _ shorter rest rfl)
    · have apart : ∀ pair ∈ replacements, ¬ pair.1.toList <+: text := by
        intro pair listed begins
        exact placed ⟨pair, listed, begins⟩
      cases text with
      | nil =>
        refine .kept fun pair listed inside => apart pair listed ?_
        rw [List.eq_nil_of_infix_nil inside]
      | cons char rest =>
        rw [strReplaceAll_cons char apart]
        exact (ih rest.length (Nat.lt_succ_self _) rest rfl).cons char apart

-- The one pass of StrReplaceAll gives the filled template and nothing else is one.
theorem filled_iff (marks : Placeholders replacements) :
    Filled replacements text filled ↔ filled = strReplaceAll replacements 0 text := by
  refine ⟨fun made => made.eq_strReplaceAll marks, ?_⟩
  rintro rfl
  exact filled_strReplaceAll marks text

end Filling

def placeholders (count block : String) : List (String × String) :=
  [("\x7bnum_participants\x7d", count), ("\x7binputs\x7d", block)]

theorem placeholders_marked (count block : String) : Placeholders (placeholders count block) := by
  have apart {text : List Char} (first : "\x7bnum_participants\x7d".toList <+: text) :
      ¬ "\x7binputs\x7d".toList <+: text := by
    intro second
    have related := List.prefix_or_prefix_of_prefix first second
    revert related
    decide
  constructor
  · intro pair listed
    simp only [placeholders, List.mem_cons, List.not_mem_nil, or_false] at listed
    rcases listed with rfl | rfl
    · exact ⟨"num_participants\x7d".toList, by dsimp only; decide, by decide⟩
    · exact ⟨"inputs\x7d".toList, by dsimp only; decide, by decide⟩
  · intro pair listed other member text first second
    simp only [placeholders, List.mem_cons, List.not_mem_nil, or_false] at listed member
    rcases listed with rfl | rfl <;> rcases member with rfl | rfl
    · rfl
    · exact absurd second (apart first)
    · exact absurd first (apart second)
    · rfl

namespace Session

/-- All that std::sort promises of the tokens, given in the order of some iteration. -/
structure SortsTokens (session : Session) (order sortedTokens : List String) : Prop where
  rearranged : sortedTokens.Perm order
  ordered : sortedTokens.Pairwise fun left right => ∀ first second,
    session.participants.lookup left = some first → session.participants.lookup right = some second →
      ¬ second.joinIndex < first.joinIndex

def inputsOf (session : Session) (tokens : List String) : List String :=
  (tokens.filterMap session.participants.lookup).map (·.inputJson)

def assemblePrompt (session : Session) (sortedTokens : List String) (suffix : String) : String :=
  String.ofList (strReplaceAll
    (placeholders (toString session.size) (inputsBlock suffix 1 (session.inputsOf sortedTokens)))
    0 session.policyDef.promptTemplate.toList)

namespace Roster

variable {session : Session} {token other : String} {participant held : Participant}

theorem token_unique (roster : session.Roster)
    (listed : session.participants.lookup token = some participant)
    (seated : session.participants.lookup other = some held)
    (same : held.joinIndex = participant.joinIndex) : other = token := by
  have first := (roster.tokensInJoinOrder participant.joinIndex token).mpr ⟨_, listed, rfl⟩
  have second := (roster.tokensInJoinOrder participant.joinIndex other).mpr ⟨_, seated, same⟩
  exact Option.some.inj (second.symm.trans first)

theorem participant_unique (roster : session.Roster)
    (listed : session.participants.lookup token = some participant)
    (seated : session.participants.lookup other = some held)
    (same : held.joinIndex = participant.joinIndex) : held = participant := by
  rw [roster.token_unique listed seated same] at seated
  exact Option.some.inj (seated.symm.trans listed)

theorem tokens_perm (roster : session.Roster) :
    session.participantTokens.Perm session.participants.keys := by
  rw [List.perm_ext_iff_of_nodup roster.tokensDistinct session.participants.keys_nodup]
  intro token
  exact roster.mem_tokens token

theorem tokens_ordered (roster : session.Roster) :
    session.participantTokens.Pairwise fun left right => ∀ first second,
      session.participants.lookup left = some first →
        session.participants.lookup right = some second → first.joinIndex < second.joinIndex := by
  rw [List.pairwise_iff_getElem]
  intro i j before after earlier first second listed seated
  obtain ⟨_, found, index⟩ := (roster.tokensInJoinOrder i _).mp (List.getElem?_eq_getElem before)
  obtain ⟨_, found', index'⟩ := (roster.tokensInJoinOrder j _).mp (List.getElem?_eq_getElem after)
  cases listed.symm.trans found
  cases seated.symm.trans found'
  omega

-- However the map is iterated and the tokens are sorted, they end in the order of joining.
theorem sortedTokens_eq (roster : session.Roster) {order sortedTokens : List String}
    (iterated : order.Perm session.participants.keys)
    (sorts : session.SortsTokens order sortedTokens) : sortedTokens = session.participantTokens := by
  have same : sortedTokens.Perm session.participantTokens :=
    (sorts.rearranged.trans iterated).trans roster.tokens_perm.symm
  refine same.eq_of_pairwise ?_ sorts.ordered (roster.tokens_ordered.imp ?_)
  · intro left right sorted joined notAfter notBefore
    obtain ⟨first, listed⟩ := (FlatHashMap.mem_iff_lookup _ _).mp
      ((roster.mem_tokens left).mp (same.mem_iff.mp sorted))
    obtain ⟨second, seated⟩ := (FlatHashMap.mem_iff_lookup _ _).mp ((roster.mem_tokens right).mp joined)
    have above := notAfter first second listed seated
    have below := notBefore second first seated listed
    exact roster.token_unique seated listed (by omega)
  · intro left right increasing first second listed seated
    exact Nat.lt_asymm (increasing first second listed seated)

theorem sortedInputs_eq (roster : session.Roster) :
    session.sortedInputs = session.inputsOf session.participantTokens := by
  have joined : (session.participantTokens.filterMap session.participants.lookup).Pairwise
      fun left right => left.joinIndex ≤ right.joinIndex := by
    rw [List.pairwise_filterMap]
    refine roster.tokens_ordered.imp fun increasing first listed second seated => ?_
    exact Nat.le_of_lt (increasing first second listed seated)
  have same : (session.participantTokens.filterMap session.participants.lookup).Perm
      (FlatHashMap.values session.participants) := by
    rw [FlatHashMap.values_eq_filterMap]
    exact roster.tokens_perm.filterMap _
  rw [sortedInputs, inputsOf]
  congr 1
  refine ((List.perm_insertionSort _ _).trans same.symm).eq_of_pairwise ?_
    (List.pairwise_insertionSort _ _) joined
  intro left right sorted listed notAfter notBefore
  rw [List.mem_insertionSort, FlatHashMap.mem_values] at sorted
  rw [List.mem_filterMap] at listed
  obtain ⟨token, seated⟩ := sorted
  obtain ⟨other, -, found⟩ := listed
  exact roster.participant_unique found seated (Nat.le_antisymm notAfter notBefore)

end Roster

def inputAt (session : Session) (index : Nat) : String :=
  match (FlatHashMap.values session.participants).find? (·.joinIndex = index) with
  | some participant => participant.inputJson
  | none => ""

/-- For every participant in the order of joining, the input between the delimiters of its number. -/
def numberedBlock (session : Session) (suffix : String) : String :=
  String.join ((List.range session.size).map fun index =>
    delimiter (index + 1) "BEGIN" suffix ++ session.inputAt index ++ "\n" ++
      delimiter (index + 1) "END" suffix ++ "\n")

theorem Roster.inputAt_eq {session : Session} (roster : session.Roster) {token : String}
    {participant : Participant} (listed : session.participants.lookup token = some participant) :
    session.inputAt participant.joinIndex = participant.inputJson := by
  have some : ∃ held, (FlatHashMap.values session.participants).find?
      (·.joinIndex = participant.joinIndex) = some held := by
    rw [← Option.isSome_iff_exists, List.find?_isSome]
    exact ⟨participant, (FlatHashMap.mem_values _ _).mpr ⟨token, listed⟩, by simp⟩
  obtain ⟨held, found⟩ := some
  obtain ⟨other, seated⟩ := (FlatHashMap.mem_values _ _).mp (List.mem_of_find?_eq_some found)
  have same : held.joinIndex = participant.joinIndex := by simpa using List.find?_some found
  rw [inputAt, found, roster.participant_unique listed seated same]

theorem inputsOf_eq_map (session : Session) (input : Nat → String) (start : Nat)
    (tokens : List String)
    (each : ∀ index token, tokens[index]? = some token → ∃ participant,
      session.participants.lookup token = some participant ∧
        input (start + index) = participant.inputJson) :
    session.inputsOf tokens = (List.range' start tokens.length).map input := by
  induction tokens generalizing start with
  | nil => rfl
  | cons token rest ih =>
    obtain ⟨participant, listed, first⟩ := each 0 token rfl
    have others := ih (start + 1) fun index other found => by
      have later := each (index + 1) other found
      rwa [← Nat.add_assoc, Nat.add_right_comm] at later
    rw [inputsOf] at others ⊢
    simp only [List.filterMap_cons, listed, List.map_cons, others]
    rw [List.length_cons, List.range'_succ, List.map_cons, ← first, Nat.add_zero]

theorem Roster.inputsOf_tokens {session : Session} (roster : session.Roster) :
    session.inputsOf session.participantTokens = (List.range' 0 session.size).map session.inputAt := by
  rw [← roster.length_tokens]
  refine session.inputsOf_eq_map session.inputAt 0 _ fun index token found => ?_
  obtain ⟨participant, listed, rfl⟩ := (roster.tokensInJoinOrder index token).mp found
  exact ⟨participant, listed, by rw [Nat.zero_add, roster.inputAt_eq listed]⟩

end Session

theorem inputsBlock_eq (suffix : String) (input : Nat → String) (number count : Nat) :
    inputsBlock suffix (number + 1) ((List.range' number count).map input) =
      String.join ((List.range' number count).map fun index =>
        delimiter (index + 1) "BEGIN" suffix ++ input index ++ "\n" ++
          delimiter (index + 1) "END" suffix ++ "\n") := by
  induction count generalizing number with
  | zero => rfl
  | succ count ih =>
    rw [List.range'_succ, List.map_cons, List.map_cons, inputsBlock, String.join_cons, ih]

namespace Session

variable {session : Session}

theorem Roster.inputsBlock_tokens (roster : session.Roster) (suffix : String) :
    inputsBlock suffix 1 (session.inputsOf session.participantTokens) =
      session.numberedBlock suffix := by
  rw [roster.inputsOf_tokens, inputsBlock_eq suffix session.inputAt 0, ← List.range_eq_range']
  rfl

structure InputsNumbered (session : Session) : Prop where
  within : ∀ token participant, session.participants.lookup token = some participant →
    participant.joinIndex < session.size
  seated : ∀ index, index < session.size →
    ∃ token participant, session.participants.lookup token = some participant ∧
      participant.joinIndex = index ∧ participant.inputSubmitted = true ∧
      session.inputAt index = participant.inputJson ∧
      ∀ other held, session.participants.lookup other = some held → held.joinIndex = index →
        other = token

theorem Ready.inputsNumbered (ready : session.Ready) (calculating : session.state = .CALCULATING) :
    session.InputsNumbered := by
  constructor
  · intro token participant listed
    exact (ready.joinIndexes _).mpr ⟨token, participant, listed, rfl⟩
  · intro index small
    obtain ⟨token, participant, listed, rfl⟩ := (ready.joinIndexes index).mp small
    refine ⟨token, participant, listed, rfl, ready.calculated (.inl calculating) token participant listed,
      ready.toRoster.inputAt_eq listed, ?_⟩
    intro other held found same
    exact ready.toRoster.token_unique listed found same

theorem Roster.assemblePrompt_eq (roster : session.Roster) {order sortedTokens : List String}
    (iterated : order.Perm session.participants.keys)
    (sorts : session.SortsTokens order sortedTokens) (suffix : String) :
    session.assemblePrompt sortedTokens suffix = session.buildPrompt suffix := by
  rw [assemblePrompt, buildPrompt, roster.sortedTokens_eq iterated sorts, roster.sortedInputs_eq]
  rfl

end Session

/--
The prompt of every waiting session is its template with the count and the numbered inputs filled
in, in whatever order the participants are iterated; ProcessSessionAsync sends just that prompt.
-/
theorem prompt_assembled_of_reachable (env : Environment) (fresh : env.NeverRepeats)
    (system : System) (reachable : (machine env).Reachable system) (id : String) (session : Session)
    (stored : system.manager.sessions.lookup id = some session)
    (calculating : session.state = .CALCULATING) :
    session.InputsNumbered ∧
      ∀ order sortedTokens, order.Perm session.participants.keys →
        session.SortsTokens order sortedTokens →
        (∀ suffix prompt, prompt = session.assemblePrompt sortedTokens suffix ↔
          Filled (placeholders (toString session.size) (session.numberedBlock suffix))
            session.policyDef.promptTemplate.toList prompt.toList) ∧
        (system.manager.preparePrompt env id).2 =
          some (session.assemblePrompt sortedTokens (env.randomHex system.manager.draws 8),
            session.outputSchema) := by
  have ready := (sound_of_reachable fresh reachable).ready id session stored
  refine ⟨ready.inputsNumbered calculating, fun order sortedTokens iterated sorts => ⟨?_, ?_⟩⟩
  · intro suffix prompt
    rw [filled_iff (placeholders_marked _ _), Session.assemblePrompt, ready.toRoster.sortedTokens_eq iterated sorts,
      ready.toRoster.inputsBlock_tokens, ← String.toList_inj, String.toList_ofList]
  · rw [ready.toRoster.assemblePrompt_eq iterated sorts]
    simp only [SessionManager.preparePrompt, stored, calculating, ne_eq, not_true, if_false]
    rfl

def calendarSubmitted : System :=
  (machine calendarEnv).after (machine calendarEnv).initial calendarSubmissions

theorem calendar_prompt_assembled :
    ∃ session, calendarSubmitted.manager.sessions.lookup "a" = some session ∧
      session.InputsNumbered ∧
      Filled (placeholders "2" (session.numberedBlock "f0")) session.policyDef.promptTemplate.toList
        (session.assemblePrompt ["aa", "aaaa"] "f0").toList ∧
      (calendarSubmitted.manager.preparePrompt calendarEnv "a").2.map Prod.fst =
        some (session.assemblePrompt ["aa", "aaaa"]
          (calendarEnv.randomHex calendarSubmitted.manager.draws 8)) := by
  have present : (calendarSubmitted.manager.sessions.lookup "a").isSome = true := by decide +kernel
  have facts : ∀ session ∈ calendarSubmitted.manager.sessions.lookup "a",
      session.state = .CALCULATING ∧ session.size = 2 ∧
        ["aaaa", "aa"].Perm session.participants.keys ∧
        (session.participants.lookup "aa").map (·.joinIndex) = some 0 ∧
        (session.participants.lookup "aaaa").map (·.joinIndex) = some 1 := by
    decide +kernel
  obtain ⟨session, stored⟩ := Option.isSome_iff_exists.mp present
  obtain ⟨calculating, two, iterated, first, second⟩ := facts session stored
  have sorts : session.SortsTokens ["aaaa", "aa"] ["aa", "aaaa"] := by
    refine ⟨List.Perm.swap _ _ _, ?_⟩
    simp only [List.pairwise_cons, List.mem_singleton, forall_eq, List.not_mem_nil, false_implies,
      implies_true, List.Pairwise.nil, and_true]
    intro left right listed seated
    rw [listed, Option.map_some, Option.some.injEq] at first
    omega
  obtain ⟨numbered, assembled⟩ := prompt_assembled_of_reachable calendarEnv
    (countingEnv_neverRepeats _) calendarSubmitted ⟨_, rfl⟩ "a" session stored calculating
  obtain ⟨filled, prepared⟩ := assembled ["aaaa", "aa"] ["aa", "aaaa"] iterated sorts
  refine ⟨session, stored, numbered, ?_, by rw [prepared]; rfl⟩
  have here := (filled "f0" _).mp rfl
  rwa [two] at here

end Ztab
