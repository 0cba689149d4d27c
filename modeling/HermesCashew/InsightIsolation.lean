import HermesCashew.PreCompress

/-!
# Bad items among the insights

Which items of the model's answer are written, and when every one that should be written
is, with the embedding pass after it and nothing else in the summary.
-/

namespace HermesCashew.PreCompress

open HermesCashew.Config (isSurrogate loadsText plainChars)
open HermesCashew.JsonDocument (Value truthy FitsItems FitsMembers compact dumps loads_dumps)
open HermesCashew.JsonText (Str str)
open HermesCashew.Raising

set_option autoImplicit false

/-! ## The items to write -/

def keptItem : Value → Option Items
  | .dict item => if truthy (getOr item "keep" (.bool true)) then some item else none
  | _ => none

def kept (items : List Value) : List Items :=
  items.filterMap keptItem

def good (item : Items) : Option Insight :=
  (insightOf item).toOption.join

def goods (items : List Value) : List Insight :=
  (kept items).filterMap good

/-! ## The condition -/

section

variable (host : Host)

/-- The call for a node returns, when the graph has the nodes `known`. -/
def creates (known : List String) (index : Nat) (insight : Insight) : Bool :=
  encodable insight.content && !host.createFails index &&
    (decide (host.nodeId insight.content ∈ known) || insight.binds)

def remember (known : List String) (insight : Insight) : List String :=
  if host.nodeId insight.content ∈ known then known
  else known ++ [host.nodeId insight.content]

def AllCreated : List String → Nat → List Insight → Prop
  | _, _, [] => True
  | known, index, insight :: rest =>
      creates host known index insight = true ∧
        AllCreated (remember host known insight) (index + 1) rest

def tagged (index : Nat) (insight : Insight) : Bool :=
  match insight.tags with
  | .list tags =>
      decide (tags = []) ||
        match tagTexts tags with
        | .ok texts => texts.all encodable && !host.tagsFail index
        | .error _ => false
  | _ => true

def SomeTagged : Nat → List Insight → Prop
  | _, [] => False
  | index, insight :: rest => tagged host index insight = true ∨ SomeTagged (index + 1) rest

/-- The items are objects, the contents of the kept ones are texts or falsy, the layers let
the call through, every node is created, some node gets its tags, and the summary meets no
blank content. -/
structure Separable (nodes : List (String × Str)) (items : List Value) : Prop where
  objects : ∀ item ∈ items, ∃ members, item = .dict members
  contents : ∀ item ∈ kept items, truthy (getOr item "content" (.str [])) = true →
    ∃ content, getOr item "content" (.str []) = .str content
  admitted : host.admission = none
  identified : host.runtimeIdentity = none
  ready : host.stillReady = true
  created : AllCreated host (nodes.map Prod.fst) 0 (goods items)
  tagged : SomeTagged host 0 (goods items)
  solid : host.release = none → ∀ item ∈ (kept items).take 3, ∀ content,
    getOr item "content" (.str []) = .str content → content = [] ∨ strip content ≠ []

end

/-- The model answers with this array, and it is asked for it. -/
structure Answers (host : Host) (provider : Provider) (messages items : List Value) : Prop where
  listens : provider.listens = true
  answered : ∃ exchanges response cleaned, extractExchanges messages = .ok exchanges ∧
    6 ≤ exchanges.length ∧
    host.model provider.domains.1 provider.domains.2 (messagesText exchanges) =
      .text response ∧
    strip response ≠ [] ∧ unfence (strip response) = some cleaned ∧
    loadsText host.python cleaned = .ok (.list items)

/-- Every item to write is persisted, the embedding pass is run if one is, and the summary
is made of persisted contents. -/
structure Isolates (items : List Value) (after : State) : Prop where
  persisted : after.persisted = (goods items).map Insight.content
  embedded : after.persisted ≠ [] → after.embedded = true
  mentioned : ∀ content ∈ after.summaries, strip content ∈ after.persisted

/-! ## One item -/

section

variable {host : Host} {state after : State}

def afterCreation (host : Host) (insight : Insight) (state : State) : State :=
  if creates host state.ids state.creations insight then
    { state with
      creations := state.creations + 1
      persisted := state.persisted ++ [insight.content]
      nodes :=
        if host.nodeId insight.content ∈ state.ids then state.nodes
        else state.nodes ++ [(host.nodeId insight.content, insight.content)] }
  else { state with creations := state.creations + 1 }

theorem create_node_created (insight : Insight)
    (able : creates host state.ids state.creations insight = true) :
    createNode host insight state =
      (.ok state.creations, afterCreation host insight state) := by
  unfold afterCreation
  rw [if_pos able]
  simp only [creates, Bool.and_eq_true, Bool.or_eq_true, Bool.not_eq_true'] at able
  obtain ⟨⟨plain, works⟩, known⟩ := able
  unfold createNode
  dsimp only
  rw [if_neg (by simp [plain]), if_neg (by simp [works])]
  by_cases member : host.nodeId insight.content ∈ state.ids
  · rw [if_pos member, if_pos member]
  · rw [if_neg member, if_neg member, if_pos (known.resolve_left (by simp [member]))]

theorem create_node_failed (insight : Insight)
    (unable : creates host state.ids state.creations insight = false) :
    ∃ fault, createNode host insight state =
      (.error fault, afterCreation host insight state) := by
  unfold afterCreation
  rw [unable, if_neg Bool.noConfusion]
  unfold createNode
  dsimp only
  unfold creates at unable
  cases plain : encodable insight.content with
  | false => exact ⟨_, if_pos rfl⟩
  | true =>
      cases works : host.createFails state.creations with
      | true => exact ⟨_, rfl⟩
      | false =>
          rw [plain, works] at unable
          simp only [Bool.not_false, Bool.true_and, Bool.or_eq_false_iff,
            decide_eq_false_iff_not] at unable
          refine ⟨.database, ?_⟩
          rw [if_neg Bool.noConfusion, if_neg Bool.noConfusion, if_neg unable.1,
            if_neg (by simp [unable.2])]

theorem tag_node_spec (index : Nat) (insight : Insight) :
    (tagNode host index insight.tags state).2 = state ∧
      ((tagNode host index insight.tags state).1 = .ok () ∧ tagged host index insight = true ∨
        (∃ fault, (tagNode host index insight.tags state).1 = .error fault) ∧
          tagged host index insight = false) := by
  unfold tagNode tagged
  cases insight.tags with
  | list tags =>
      dsimp only
      by_cases empty : tags = []
      · simp [empty]
      · rw [if_neg empty, decide_eq_false empty, Bool.false_or]
        unfold setNodeTags
        cases stripped : tagTexts tags with
        | error fault => exact ⟨rfl, .inr ⟨⟨fault, rfl⟩, rfl⟩⟩
        | ok texts =>
            rw [Block.bind_ok (rfl : ask (.ok texts) state = (.ok texts, state))]
            dsimp only
            cases written : texts.all encodable && !host.tagsFail index with
            | true => exact ⟨rfl, .inl ⟨rfl, rfl⟩⟩
            | false => exact ⟨rfl, .inr ⟨⟨.database, rfl⟩, rfl⟩⟩
  | _ => exact ⟨rfl, .inl ⟨rfl, rfl⟩⟩

/-- The `try` block of an item never raises. -/
theorem create_insight_spec (insight : Insight) :
    createInsight host insight state =
      (.ok (creates host state.ids state.creations insight &&
        tagged host state.creations insight), afterCreation host insight state) := by
  unfold createInsight Block.except
  cases able : creates host state.ids state.creations insight with
  | false =>
      obtain ⟨fault, failed⟩ := create_node_failed insight able
      rw [Block.bind_error failed]
      rfl
  | true =>
      rw [Block.bind_ok (create_node_created insight able)]
      obtain ⟨same, ⟨done, written⟩ | ⟨⟨fault, failed⟩, unwritten⟩⟩ :=
        @tag_node_spec host (afterCreation host insight state) state.creations insight
      · rw [Block.bind_ok (Prod.ext done same), written]
        rfl
      · rw [Block.bind_error (Prod.ext failed same), unwritten]
        rfl

/-! ## The loop over the items -/

theorem after_creation_ids (insight : Insight)
    (able : creates host state.ids state.creations insight = true) :
    (afterCreation host insight state).ids = remember host state.ids insight := by
  unfold afterCreation remember
  rw [if_pos able]
  by_cases known : host.nodeId insight.content ∈ state.ids
  · rw [if_pos known, State.ids]
    dsimp only
    rw [if_pos known]
    rfl
  · rw [if_neg known, State.ids]
    dsimp only
    rw [if_neg known]
    exact List.map_append

structure Wrote (before after : State) (insights : List Insight) : Prop where
  persisted : ∃ found, after.persisted = before.persisted ++ found ∧
    found.Sublist (insights.map Insight.content)
  embedded : after.embedded = before.embedded
  summaries : after.summaries = before.summaries

theorem Wrote.nothing (state : State) (insights : List Insight) :
    Wrote state state insights :=
  ⟨⟨[], (List.append_nil _).symm, List.nil_sublist _⟩, rfl, rfl⟩

theorem Wrote.cons {insight : Insight} {insights : List Insight}
    (rest : Wrote (afterCreation host insight state) after insights) :
    Wrote state after (insight :: insights) := by
  obtain ⟨⟨found, written, sub⟩, embedded, summaries⟩ := rest
  unfold afterCreation at written embedded summaries
  split at written
  · rename_i able
    rw [if_pos able] at embedded summaries
    refine ⟨⟨insight.content :: found, ?_, sub.cons_cons _⟩, embedded, summaries⟩
    rw [written, List.append_assoc]
    rfl
  · rename_i unable
    rw [if_neg unable] at embedded summaries
    exact ⟨⟨found, written, sub.cons _⟩, embedded, summaries⟩

structure Written (host : Host) (before after : State) (insights : List Insight)
    (counted : Nat) : Prop where
  persisted : ∃ found, after.persisted = before.persisted ++ found ∧
    found.Sublist (insights.map Insight.content) ∧
    (found = insights.map Insight.content ↔
      AllCreated host before.ids before.creations insights)
  counted : AllCreated host before.ids before.creations insights →
    (0 < counted ↔ SomeTagged host before.creations insights)
  embedded : after.embedded = before.embedded
  summaries : after.summaries = before.summaries

theorem Written.nil (before : State) : Written host before before [] 0 where
  persisted := ⟨[], (List.append_nil _).symm, .slnil, fun _ => trivial, fun _ => rfl⟩
  counted := fun _ => ⟨fun positive => absurd positive (Nat.lt_irrefl 0), False.elim⟩
  embedded := rfl
  summaries := rfl

theorem Written.cons {insight : Insight} {insights : List Insight} {counted : Nat}
    (rest : Written host (afterCreation host insight state) after insights counted) :
    Written host state after (insight :: insights)
      ((creates host state.ids state.creations insight &&
        tagged host state.creations insight).toNat + counted) := by
  have kept : (afterCreation host insight state).embedded = state.embedded ∧
      (afterCreation host insight state).summaries = state.summaries ∧
      (afterCreation host insight state).creations = state.creations + 1 := by
    unfold afterCreation
    split <;> exact ⟨rfl, rfl, rfl⟩
  obtain ⟨found, written, sub, whole⟩ := rest.persisted
  have counts := rest.counted
  rw [kept.2.2] at whole counts
  refine ⟨?_, ?_, rest.embedded.trans kept.1, rest.summaries.trans kept.2.1⟩
  · cases able : creates host state.ids state.creations insight with
    | true =>
        rw [after_creation_ids insight able] at whole
        refine ⟨insight.content :: found, ?_, sub.cons_cons _, ?_⟩
        · rw [written, afterCreation, if_pos able, List.append_assoc]
          rfl
        · rw [List.map_cons, List.cons.injEq, AllCreated, whole, able]
          simp
    | false =>
        refine ⟨found, ?_, sub.cons _, ?_⟩
        · rw [written, afterCreation, if_neg (by simp [able])]
        · rw [AllCreated, able]
          constructor
          · intro same
            have shorter := sub.length_le
            rw [same, List.map_cons, List.length_cons] at shorter
            omega
          · rintro ⟨created, -⟩
            cases created
  · rintro ⟨able, later⟩
    rw [after_creation_ids insight able] at counts
    have others := counts later
    rw [able, Bool.true_and, SomeTagged, ← others]
    cases tagged host state.creations insight with
    | true => exact ⟨fun _ => .inl rfl, fun _ => Nat.add_pos_left Nat.one_pos counted⟩
    | false => simp

theorem create_insights_ok {items : List Items} {count total : Nat}
    (ran : createInsights host count items state = (.ok total, after)) :
    (∀ item ∈ items, ∃ found, insightOf item = .ok found) ∧
      ∃ counted, total = count + counted ∧
        Written host state after (items.filterMap good) counted := by
  induction items generalizing count state with
  | nil =>
      cases ran
      exact ⟨nofun, 0, rfl, .nil _⟩
  | cons item rest induction =>
      rw [createInsights] at ran
      obtain ⟨found, middle, read, ran⟩ := Block.bind_inv ran
      obtain ⟨read_, rfl⟩ := Prod.mk.inj read
      cases found with
      | none =>
          obtain ⟨readable, counted, same, written⟩ := induction ran
          refine ⟨List.forall_mem_cons.mpr ⟨⟨_, read_⟩, readable⟩, counted, same, ?_⟩
          have skipped : good item = none := by
            rw [good, read_]
            rfl
          rw [List.filterMap_cons_none skipped]
          exact written
      | some insight =>
          dsimp only at ran
          rw [Block.bind_ok (create_insight_spec insight)] at ran
          obtain ⟨readable, counted, same, written⟩ := induction ran
          have chosen : good item = some insight := by
            rw [good, read_]
            rfl
          rw [List.filterMap_cons_some chosen]
          exact ⟨List.forall_mem_cons.mpr ⟨⟨_, read_⟩, readable⟩, _,
            same.trans (Nat.add_assoc ..), written.cons⟩

/-- The loop returns when every content can be stripped. -/
theorem create_insights_returns {items : List Items} (count : Nat)
    (readable : ∀ item ∈ items, ∃ found, insightOf item = .ok found) :
    ∃ total last, createInsights host count items state = (.ok total, last) := by
  induction items generalizing count state with
  | nil => exact ⟨_, _, rfl⟩
  | cons item rest induction =>
      obtain ⟨⟨found, read⟩, later⟩ := List.forall_mem_cons.mp readable
      rw [createInsights, Block.bind_ok (show ask (insightOf item) state = (.ok found, state) by
        rw [read]; rfl)]
      cases found with
      | none => exact induction count later
      | some insight =>
          dsimp only
          rw [Block.bind_ok (create_insight_spec insight)]
          exact induction _ later

theorem create_insights_wrote {items : List Items} (count : Nat) :
    Wrote state (createInsights host count items state).2 (items.filterMap good) := by
  induction items generalizing count state with
  | nil => exact .nothing _ _
  | cons item rest induction =>
      rw [createInsights, Block.bind_apply]
      cases read : insightOf item with
      | error fault => exact .nothing _ _
      | ok found =>
          have chosen : good item = found := by
            rw [good, read]
            rfl
          cases found with
          | none =>
              rw [List.filterMap_cons_none chosen]
              exact induction count
          | some insight =>
              rw [List.filterMap_cons_some chosen]
              change Wrote state ((createInsight host insight >>= _) state).2 _
              rw [Block.bind_ok (create_insight_spec insight)]
              exact (induction _).cons

/-! ## The admitted block -/

structure Opened (host : Host) (items : List Items) (before : State) (count : Nat)
    (last : State) : Prop where
  admitted : host.admission = none
  identified : host.runtimeIdentity = none
  ready : host.stillReady = true
  ran : createInsights host 0 items before = (.ok count, last)
  counts : 0 < count

theorem embed_except (host : Host) (state : State) :
    ((embedNodes host).except fun _ => pure ()) state =
      (.ok (), { state with embedded := true }) := by
  unfold Block.except embedNodes
  cases host.embedFails <;> rfl

theorem unlocked_opened {items : List Items} {count : Nat} {last : State}
    (opened : Opened host items state count last) :
    createInsightNodesUnlocked host items state =
      (.ok count, { last with embedded := true }) := by
  unfold createInsightNodesUnlocked
  rw [if_neg (by simp [opened.ready]), Block.bind_ok opened.ran, if_pos opened.counts,
    Block.bind_ok (embed_except host last)]
  rfl

/-- A run that counts no item, and has not come to the embedding pass. -/
structure Idle (before : State) (ran : Except Fault Nat × State) (insights : List Insight) :
    Prop where
  wrote : Wrote before ran.2 insights
  zero : ∀ count, ran.1 = .ok count → count = 0

theorem Idle.raises (before : State) (fault : Fault) (insights : List Insight) :
    Idle before (.error fault, before) insights :=
  ⟨.nothing _ _, nofun⟩

/-- A loop that does not count an item leaves the embedding pass out. -/
theorem unlocked_cases (items : List Items) :
    Idle state (createInsightNodesUnlocked host items state) (items.filterMap good) ∨
      host.stillReady = true ∧ ∃ count last,
        createInsights host 0 items state = (.ok count, last) ∧ 0 < count := by
  unfold createInsightNodesUnlocked
  cases ready : host.stillReady with
  | false =>
      refine .inl ⟨.nothing _ _, ?_⟩
      intro count same
      cases same
      rfl
  | true =>
      rw [if_neg Bool.noConfusion]
      have wrote := @create_insights_wrote host state items 0
      cases ran : createInsights host 0 items state with
      | mk outcome last =>
          rw [ran] at wrote
          cases outcome with
          | error fault =>
              rw [Block.bind_error ran]
              exact .inl ⟨wrote, nofun⟩
          | ok count =>
              by_cases counts : 0 < count
              · exact .inr ⟨rfl, count, last, rfl, counts⟩
              · rw [Block.bind_ok ran, if_neg counts]
                refine .inl ⟨wrote, ?_⟩
                intro other same
                cases same
                omega

theorem layer_none : layer none state = (.ok (), state) :=
  rfl

/-- A handler that keeps the state. -/
theorem except_state {Result : Type} (block : Code Result) (handler : Fault → Code Result)
    (keeps : ∀ fault after, (handler fault after).2 = after) :
    (block.except handler state).2 = (block state).2 := by
  unfold Block.except
  rcases block state with ⟨outcome, after⟩
  cases outcome with
  | ok result => rfl
  | error fault => exact keeps fault after

theorem Idle.rejected {block : Code Nat} {insights : List Insight}
    (idle : Idle state (block state) insights) :
    Idle state (block.except rejected state) insights := by
  unfold Block.except
  cases ran : block state with
  | mk outcome last =>
      rw [ran] at idle
      cases outcome with
      | ok count => exact idle
      | error fault =>
          dsimp only
          unfold PreCompress.rejected
          split
          · refine ⟨idle.wrote, ?_⟩
            intro count same
            cases same
            rfl
          · exact ⟨idle.wrote, nofun⟩

theorem Idle.released {block : Code Nat} {insights : List Insight} (fault : Option Fault)
    (idle : Idle state (block state) insights) :
    Idle state (block.finish (layer fault) state) insights := by
  unfold Block.finish
  cases fault with
  | none => exact idle
  | some fault => exact ⟨idle.wrote, nofun⟩

theorem create_insight_nodes_cases (items : List Items) :
    Idle state (createInsightNodes host items state) (items.filterMap good) ∨
      ∃ count last, Opened host items state count last := by
  unfold createInsightNodes
  cases admitted : host.admission with
  | some fault => exact .inl (Idle.rejected (.raises _ _ _))
  | none =>
      cases identified : host.runtimeIdentity with
      | some fault =>
          have failed : admittedInsights host items state = (.error fault, state) := by
            rw [admittedInsights, identified]
            rfl
          refine .inl (Idle.rejected ?_)
          rw [Block.bind_ok layer_none]
          apply Idle.released
          rw [failed]
          exact .raises _ _ _
      | none =>
          have same : admittedInsights host items state =
              createInsightNodesUnlocked host items state := by
            rw [admittedInsights, identified]
            rfl
          rcases @unlocked_cases host state items with idle | ⟨ready, count, last, ran, counts⟩
          · refine .inl (Idle.rejected ?_)
            rw [Block.bind_ok layer_none]
            apply Idle.released
            rw [same]
            exact idle
          · exact .inr ⟨count, last, admitted, identified, ready, ran, counts⟩

/-- What an opened block comes to, with the number that is lost when its release raises. -/
theorem create_insight_nodes_opened {items : List Items} {count : Nat} {last : State}
    (opened : Opened host items state count last) :
    (createInsightNodes host items state).2 = { last with embedded := true } ∧
      (host.release = none → (createInsightNodes host items state).1 = .ok count) ∧
      (host.release ≠ none → (createInsightNodes host items state).1 = .ok 0 ∨
        ∃ fault, (createInsightNodes host items state).1 = .error fault) := by
  unfold createInsightNodes Block.except
  rw [opened.admitted, Block.bind_ok layer_none]
  unfold Block.finish admittedInsights
  rw [opened.identified, Block.bind_ok layer_none, unlocked_opened opened]
  cases released : host.release with
  | none => exact ⟨rfl, fun _ => rfl, fun some_ => absurd rfl some_⟩
  | some fault =>
      dsimp only [layer, ask]
      unfold rejected
      split
      · exact ⟨rfl, nofun, fun _ => .inl rfl⟩
      · exact ⟨rfl, nofun, fun _ => .inr ⟨fault, rfl⟩⟩

/-! ## Reading the items -/

theorem kept_dict (members : Items) (rest : List Value) :
    kept (.dict members :: rest) =
      if truthy (getOr members "keep" (.bool true)) then members :: kept rest else kept rest := by
  rw [kept, List.filterMap_cons, keptItem]
  by_cases keeps : truthy (getOr members "keep" (.bool true)) = true
  · rw [if_pos keeps, if_pos keeps]
    rfl
  · rw [if_neg keeps, if_neg keeps]
    rfl

theorem kept_items_ok {items : List Value} {found : List Items}
    (read : keptItems items = .ok found) :
    (∀ item ∈ items, ∃ members, item = .dict members) ∧ found = kept items := by
  induction items generalizing found with
  | nil =>
      cases read
      exact ⟨nofun, rfl⟩
  | cons item rest induction =>
      cases item with
      | dict members =>
          rw [keptItems] at read
          cases later : keptItems rest with
          | error fault =>
              rw [later] at read
              cases read
          | ok others =>
              rw [later] at read
              cases read
              obtain ⟨objects, rfl⟩ := induction later
              exact ⟨List.forall_mem_cons.mpr ⟨⟨members, rfl⟩, objects⟩,
                (kept_dict members rest).symm⟩
      | _ => cases read

theorem kept_items_of_objects {items : List Value}
    (objects : ∀ item ∈ items, ∃ members, item = .dict members) :
    keptItems items = .ok (kept items) := by
  induction items with
  | nil => rfl
  | cons item rest induction =>
      obtain ⟨⟨members, rfl⟩, later⟩ := List.forall_mem_cons.mp objects
      rw [keptItems, induction later, kept_dict]
      rfl

theorem readable_iff {item : Items} :
    (∃ found, insightOf item = .ok found) ↔
      (truthy (getOr item "content" (.str [])) = true →
        ∃ content, getOr item "content" (.str []) = .str content) := by
  unfold insightOf
  cases given : getOr item "content" (.str []) with
  | str content => exact ⟨fun _ _ => ⟨content, rfl⟩, fun _ => ⟨_, rfl⟩⟩
  | _ =>
      dsimp only
      split
      · rename_i holds
        constructor
        · rintro ⟨found, failed⟩
          cases failed
        · intro text
          obtain ⟨content, different⟩ := text holds
          cases different
      · rename_i fails
        exact ⟨fun _ holds => absurd holds fails, fun _ => ⟨_, rfl⟩⟩

theorem good_of_str {item : Items} {content : Str}
    (given : getOr item "content" (.str []) = .str content) (solid : strip content ≠ []) :
    ∃ insight, good item = some insight ∧ insight.content = strip content := by
  unfold good insightOf
  rw [given]
  dsimp only
  rw [if_neg solid]
  exact ⟨_, rfl, rfl⟩

theorem good_content {item : Items} {insight : Insight} (chosen : good item = some insight) :
    insight.content ≠ [] := by
  unfold good insightOf at chosen
  cases given : getOr item "content" (.str []) with
  | str content =>
      rw [given] at chosen
      dsimp only at chosen
      split at chosen
      · cases chosen
      · rename_i solid
        cases chosen
        exact solid
  | _ =>
      rw [given] at chosen
      dsimp only at chosen
      split at chosen <;> cases chosen

def mention (item : Items) : Option Str :=
  match getOr item "content" (.str []) with
  | .str content => if content = [] then none else some content
  | _ => none

theorem summary_contents_ok {items : List Items}
    (readable : ∀ item ∈ items, ∃ found, insightOf item = .ok found) :
    summaryContents host items = .ok (items.filterMap mention) := by
  induction items with
  | nil => rfl
  | cons item rest induction =>
      obtain ⟨own, later⟩ := List.forall_mem_cons.mp readable
      have text := readable_iff.mp own
      rw [summaryContents, List.filterMap_cons, mention, induction later]
      cases given : getOr item "content" (.str []) with
      | str content =>
          dsimp only
          by_cases empty : content = []
          · rw [if_pos empty]
            simp [Except.map, empty]
          · rw [if_neg empty]
            simp [Except.map, empty]
      | list content =>
          rw [given] at text
          have empty : content = [] := by
            by_contra some_
            obtain ⟨string, different⟩ := text (by simp [truthy, some_])
            cases different
          simp [Except.map, empty]
      | _ =>
          rw [given] at text
          dsimp only
          split
          · rename_i holds
            obtain ⟨string, different⟩ := text holds
            cases different
          · rfl

/-- What the summary mentions of kept items is written exactly when it is not blank. -/
theorem mentions_written_iff {items : List Items} {others : List Items}
    (inside : ∀ item ∈ others, item ∈ items) :
    (∀ content ∈ others.filterMap mention,
      strip content ∈ (items.filterMap good).map Insight.content) ↔
    ∀ item ∈ others, ∀ content, getOr item "content" (.str []) = .str content →
      content = [] ∨ strip content ≠ [] := by
  constructor
  · intro written item member content given
    by_cases empty : content = []
    · exact .inl empty
    · have mentioned : mention item = some content := by
        rw [mention, given]
        exact if_neg empty
      obtain ⟨insight, chosen, same⟩ := List.mem_map.mp
        (written content (List.mem_filterMap.mpr ⟨item, member, mentioned⟩))
      obtain ⟨_, -, good_⟩ := List.mem_filterMap.mp chosen
      rw [← same]
      exact .inr (good_content good_)
  · intro solid content member
    obtain ⟨item, inside_, mentioned⟩ := List.mem_filterMap.mp member
    unfold mention at mentioned
    cases given : getOr item "content" (.str []) with
    | str text =>
        rw [given] at mentioned
        obtain ⟨filled, same⟩ := Option.ite_none_left_eq_some.mp mentioned
        cases same
        have whole := (solid item inside_ content given).resolve_left filled
        obtain ⟨insight, chosen, same⟩ := good_of_str given whole
        rw [← same]
        exact List.mem_map_of_mem (List.mem_filterMap.mpr ⟨item, inside item inside_, chosen⟩)
    | _ =>
        rw [given] at mentioned
        cases mentioned

/-! ## What the whole call leaves -/

theorem on_pre_compress_state {provider : Provider} {messages items : List Value}
    (asked : Answers host provider messages items) :
    (onPreCompress host provider messages state).2 = (persistItems host items state).2 := by
  obtain ⟨exchanges, response, cleaned, walked, enough, answer, filled, unfenced, parsed⟩ :=
    asked.answered
  have extracted : ask (extractExchanges messages) state = (.ok exchanges, state) := by
    rw [walked]
    rfl
  have read : readAnswer host (.text response) = persistItems host items := by
    unfold readAnswer
    dsimp only
    rw [if_neg filled, unfenced]
    dsimp only
    rw [parsed]
  unfold onPreCompress
  rw [if_neg (by simp [asked.listens]), Block.bind_ok extracted, if_neg (by omega)]
  dsimp only
  rw [answer, read]
  exact except_state _ _ fun _ _ => rfl

/-- The summary of an opened block, which is only made when the count comes through. -/
theorem persist_items_opened {items : List Value} {count : Nat} {last : State}
    (objects : ∀ item ∈ items, ∃ members, item = .dict members)
    (opened : Opened host (kept items) state count last)
    (fresh : last.summaries = []) :
    (persistItems host items state).2.persisted = last.persisted ∧
      (persistItems host items state).2.embedded = true ∧
      (persistItems host items state).2.summaries =
        if host.release = none then ((kept items).take 3).filterMap mention else [] := by
  have some_ : kept items ≠ [] := by
    intro none_
    have counts := opened.counts
    have ran := opened.ran
    rw [none_] at ran
    cases ran
    exact absurd counts (Nat.lt_irrefl 0)
  have readable := (create_insights_ok opened.ran).1
  obtain ⟨after_eq, kept_count, lost_count⟩ := create_insight_nodes_opened opened
  have extracted : ask (keptItems items) state = (.ok (kept items), state) := by
    rw [kept_items_of_objects objects]
    rfl
  have counts := opened.counts
  unfold persistItems
  rw [Block.bind_ok extracted, if_neg some_]
  by_cases released : host.release = none
  · rw [Block.bind_ok (Prod.ext (kept_count released) after_eq), if_neg (by omega),
      if_pos released]
    have summed : ask (summaryContents host ((kept items).take 3)) { last with embedded := true } =
        (.ok (((kept items).take 3).filterMap mention), { last with embedded := true }) := by
      rw [summary_contents_ok fun item member => readable item (List.mem_of_mem_take member)]
      rfl
    rw [Block.bind_ok summed]
    exact ⟨rfl, rfl, rfl⟩
  · rw [if_neg released]
    rcases lost_count released with zero | ⟨fault, failed⟩
    · rw [Block.bind_ok (Prod.ext zero after_eq), if_pos rfl]
      exact ⟨rfl, rfl, fresh⟩
    · rw [Block.bind_error (Prod.ext failed after_eq)]
      exact ⟨rfl, rfl, fresh⟩

/-- An array that opens no block leaves the embedding pass and the summary out. -/
theorem persist_items_cases (items : List Value) :
    Wrote state (persistItems host items state).2 (goods items) ∨
      (∀ item ∈ items, ∃ members, item = .dict members) ∧
        ∃ count last, Opened host (kept items) state count last := by
  unfold persistItems
  cases read : keptItems items with
  | error fault => exact .inl (.nothing _ _)
  | ok found =>
      obtain ⟨objects, rfl⟩ := kept_items_ok read
      rw [Block.bind_ok (rfl : ask (.ok (kept items)) state = (.ok (kept items), state))]
      by_cases none_ : kept items = []
      · rw [if_pos none_]
        exact .inl (.nothing _ _)
      · rw [if_neg none_]
        rcases @create_insight_nodes_cases host state (kept items) with idle | opened
        · refine .inl ?_
          cases ran : createInsightNodes host (kept items) state with
          | mk outcome last =>
              rw [ran] at idle
              cases outcome with
              | error fault =>
                  rw [Block.bind_error ran]
                  exact idle.wrote
              | ok created =>
                  rw [Block.bind_ok ran, if_pos (idle.zero created rfl)]
                  exact idle.wrote
        · exact .inr ⟨objects, opened⟩

/-- What the block of an opened call leaves, by the insights of its items. -/
theorem opened_iff {nodes : List (String × Str)} {items : List Value} {count : Nat}
    {last : State} (objects : ∀ item ∈ items, ∃ members, item = .dict members)
    (opened : Opened host (kept items) { nodes := nodes } count last) :
    Isolates items (persistItems host items { nodes := nodes }).2 ↔
      Separable host nodes items := by
  obtain ⟨readable, counted, same, written⟩ := create_insights_ok opened.ran
  obtain ⟨persisted, embedded, summaries⟩ :=
    persist_items_opened objects opened written.summaries
  obtain ⟨found, wrote, -, whole⟩ := written.persisted
  have inside : ∀ item ∈ (kept items).take 3, item ∈ kept items :=
    fun item => List.mem_of_mem_take
  rw [wrote, List.nil_append] at persisted
  constructor
  · intro isolates
    have all := persisted.symm.trans isolates.persisted
    have created := whole.mp all
    refine
      { objects := objects
        contents := fun item member => readable_iff.mp (readable item member)
        admitted := opened.admitted
        identified := opened.identified
        ready := opened.ready
        created := created
        tagged := (written.counted created).mp ?_
        solid := ?_ }
    · have counts := opened.counts
      omega
    · intro released
      apply (mentions_written_iff inside).mp
      have mentioned := isolates.mentioned
      rw [summaries, if_pos released, isolates.persisted] at mentioned
      exact mentioned
  · intro separable
    have all := whole.mpr separable.created
    refine ⟨persisted.trans all, fun _ => embedded, ?_⟩
    rw [summaries, persisted, all]
    by_cases released : host.release = none
    · rw [if_pos released]
      exact (mentions_written_iff inside).mpr (separable.solid released)
    · rw [if_neg released]
      exact nofun

theorem Separable.opens {nodes : List (String × Str)} {items : List Value}
    (separable : Separable host nodes items) :
    ∃ count last, Opened host (kept items) { nodes := nodes } count last := by
  have readable : ∀ item ∈ kept items, ∃ found, insightOf item = .ok found :=
    fun item member => readable_iff.mpr (separable.contents item member)
  obtain ⟨count, last, ran⟩ :=
    @create_insights_returns host { nodes := nodes } (kept items) 0 readable
  obtain ⟨-, counted, same, written⟩ := create_insights_ok ran
  have positive := (written.counted separable.created).mpr separable.tagged
  exact ⟨count, last, separable.admitted, separable.identified, separable.ready, ran, by omega⟩

/-- Bad items do no harm exactly when there is nothing to write, or the items are
separable. -/
theorem insights_are_isolated_iff (host : Host) (provider : Provider)
    (messages items : List Value) (nodes : List (String × Str))
    (asked : Answers host provider messages items) :
    Isolates items (onPreCompress host provider messages { nodes := nodes }).2 ↔
      goods items = [] ∨ Separable host nodes items := by
  rw [on_pre_compress_state asked]
  rcases @persist_items_cases host { nodes := nodes } items with wrote | ⟨objects, _, _, opened⟩
  · obtain ⟨found, persisted, sub⟩ := wrote.persisted
    rw [List.nil_append] at persisted
    constructor
    · intro isolates
      by_cases none_ : goods items = []
      · exact .inl none_
      · have filled : (goods items).map Insight.content ≠ [] := by simpa using none_
        rw [← isolates.persisted] at filled
        exact absurd (wrote.embedded.symm.trans (isolates.embedded filled)) Bool.noConfusion
    · rintro (none_ | separable)
      · rw [none_, List.map_nil, List.sublist_nil] at sub
        rw [sub] at persisted
        refine ⟨?_, fun filled => absurd persisted filled, ?_⟩
        · rw [persisted, none_, List.map_nil]
        · rw [wrote.summaries]
          exact nofun
      · obtain ⟨_, _, opened⟩ := separable.opens
        exact (opened_iff separable.objects opened).mpr separable
  · rw [opened_iff objects opened]
    constructor
    · exact .inr
    · rintro (none_ | separable)
      · obtain ⟨-, counted, same, written⟩ := create_insights_ok opened.ran
        change Written host _ _ (goods items) counted at written
        rw [none_] at written
        have counts := opened.counts
        exact ((written.counted trivial).mp (by omega)).elim
      · exact separable

end

/-! ## Answers with two items and with three -/

def spokenMessages : List Value :=
  List.replicate 6
    (.dict [(str "role", .str (str "user")), (str "content", .str (str "hi"))])

theorem answers_array {items : List Value} {response : Str}
    (plain : response.any isSurrogate = false)
    (chars : plainChars response = dumps compact (.list items))
    (fits : (Value.list items).Fits 100)
    (same : (Value.list items).reread = .list items)
    (filled : strip response ≠ [])
    (unfenced : unfence (strip response) = some response) :
    Answers (workingHost response) readyProvider spokenMessages items := by
  have loaded := @loads_dumps compact 100 _ fits [] nofun
  rw [List.append_nil] at loaded
  have parsed : loadsText (workingHost response).python response = .ok (.list items) := by
    rw [loadsText, plain, if_neg Bool.noConfusion, chars]
    exact loaded.trans (congrArg Except.ok same)
  exact ⟨rfl, List.replicate 6 (str "user: hi"), response, response, rfl, by decide, rfl,
    filled, unfenced, parsed⟩

def firstItem : Value :=
  .dict [(str "content", .str (str "first"))]

/-- The content is `true`. -/
def flagItem : Value :=
  .dict [(str "content", .bool true)]

/-- One of the tags is `true`. -/
def flagTagItem : Value :=
  .dict [(str "content", .str (str "first")), (str "tags", .list [.bool true])]

def nullItem : Value :=
  .dict [(str "content", .none)]

def secondItem : Value :=
  .dict [(str "content", .str (str "second")), (str "tags", .list [.str (str "a")])]

def mixedAnswer : Str :=
  str ("[\x7b\"content\":\"first\"\x7d,\x7b\"content\":null\x7d," ++
    "\x7b\"content\":\"second\",\"tags\":[\"a\"]\x7d]")

def flagAnswer : Str :=
  str "[\x7b\"content\":\"first\"\x7d,\x7b\"content\":true\x7d]"

def flagTagAnswer : Str :=
  str "[\x7b\"content\":\"first\",\"tags\":[true]\x7d]"

theorem mixed_answered :
    Answers (workingHost mixedAnswer) readyProvider spokenMessages
      [firstItem, nullItem, secondItem] :=
  answers_array (by decide) rfl
    (by simp [Value.Fits, FitsItems, FitsMembers, firstItem, nullItem, secondItem]) rfl
    (by decide) (by decide)

theorem mixed_items_isolated :
    (goods [firstItem, nullItem, secondItem]).map Insight.content = [str "first", str "second"] ∧
      Isolates [firstItem, nullItem, secondItem]
        (onPreCompress (workingHost mixedAnswer) readyProvider spokenMessages
          { nodes := [] }).2 := by
  refine ⟨rfl, ?_⟩
  apply (insights_are_isolated_iff _ _ _ _ _ mixed_answered).mpr
  have all : kept [firstItem, nullItem, secondItem] = [[(str "content", .str (str "first"))],
      [(str "content", .none)],
      [(str "content", .str (str "second")), (str "tags", .list [.str (str "a")])]] := rfl
  have contents : ∀ item ∈ kept [firstItem, nullItem, secondItem],
      getOr item "content" (.str []) = .str (str "first") ∨
        getOr item "content" (.str []) = .none ∨
        getOr item "content" (.str []) = .str (str "second") := by
    rw [all]
    simp only [List.forall_mem_cons]
    exact ⟨.inl rfl, .inr (.inl rfl), .inr (.inr rfl), fun _ none_ => absurd none_ List.not_mem_nil⟩
  refine .inr ⟨?_, ?_, rfl, rfl, rfl, ⟨rfl, rfl, trivial⟩, .inl rfl, ?_⟩
  · simp only [List.forall_mem_cons]
    exact ⟨⟨_, rfl⟩, ⟨_, rfl⟩, ⟨_, rfl⟩, fun _ none_ => absurd none_ List.not_mem_nil⟩
  · intro item member filled
    rcases contents item member with first | null | second
    · exact ⟨_, first⟩
    · rw [null] at filled
      cases filled
    · exact ⟨_, second⟩
  · intro _ item member text given
    rcases contents item (List.mem_of_mem_take member) with first | null | second
    · rw [first] at given
      cases given
      exact .inr (by decide)
    · rw [null] at given
      cases given
    · rw [second] at given
      cases given
      exact .inr (by decide)

/-- A content that is `true` leaves the embedding pass out for the insight before it, and so
does such a tag for its own. -/
theorem malformed_items_are_not_isolated :
    ¬ Isolates [firstItem, flagItem]
        (onPreCompress (workingHost flagAnswer) readyProvider spokenMessages
          { nodes := [] }).2 ∧
      ¬ Isolates [flagTagItem]
        (onPreCompress (workingHost flagTagAnswer) readyProvider spokenMessages
          { nodes := [] }).2 := by
  constructor
  · intro isolates
    have answered :
        Answers (workingHost flagAnswer) readyProvider spokenMessages [firstItem, flagItem] :=
      answers_array (by decide) rfl
        (by simp [Value.Fits, FitsItems, FitsMembers, firstItem, flagItem]) rfl
        (by decide) (by decide)
    rw [on_pre_compress_state answered] at isolates
    cases isolates.embedded (List.cons_ne_nil _ _)
  · intro isolates
    have answered :
        Answers (workingHost flagTagAnswer) readyProvider spokenMessages [flagTagItem] :=
      answers_array (by decide) rfl
        (by simp [Value.Fits, FitsItems, FitsMembers, flagTagItem]) rfl
        (by decide) (by decide)
    rw [on_pre_compress_state answered] at isolates
    cases isolates.embedded (List.cons_ne_nil _ _)

end HermesCashew.PreCompress
