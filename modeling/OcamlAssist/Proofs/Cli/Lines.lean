-- The laws of a completion list as lines: candidates, fixed entries and bound
-- names take one line each, and only a fault whose words take more than one line
-- makes the list longer than its entries.
import OcamlAssist.Proofs.Cli.Run
import OcamlAssist.Proofs.Locals.Scan
import OcamlAssist.Proofs.Session.History

namespace OcamlAssist

open OcamlAssist.Text

/-! ## Line feeds -/

/-- The number of line feeds in a text. Each of them ends a line. -/
def lineFeeds (text : String) : Nat := text.toList.count '\n'

theorem lineFeeds_append (a b : String) : lineFeeds (a ++ b) = lineFeeds a + lineFeeds b := by
  simp [lineFeeds]

theorem lineFeeds_eq_zero_iff {text : String} : lineFeeds text = 0 ↔ '\n' ∉ text.toList :=
  List.count_eq_zero

theorem lineFeeds_printed (lines : List String) :
    lineFeeds (Cli.printed lines) = lines.length + (lines.map lineFeeds).sum := by
  induction lines with
  | nil => rfl
  | cons line rest ih =>
    have hjoin : Cli.printed (line :: rest) = line ++ "\n" ++ Cli.printed rest := String.join_cons
    have hfeed : lineFeeds "\n" = 1 := rfl
    rw [hjoin, lineFeeds_append, lineFeeds_append, ih, hfeed]
    simp only [List.length_cons, List.map_cons, List.sum_cons]
    omega

/-! ## Entries -/

/-- Neither what an entry shows nor what it puts into the text holds a line feed. -/
structure Item.OneLine (item : Item) : Prop where
  label : '\n' ∉ item.label.toList
  insertText : '\n' ∉ item.insertText.toList

/-- The line feeds that an entry holds. -/
def Item.lineFeeds (item : Item) : Nat :=
  OcamlAssist.lineFeeds item.label + OcamlAssist.lineFeeds item.insertText

theorem Item.OneLine.lineFeeds_eq {item : Item} (h : item.OneLine) : item.lineFeeds = 0 := by
  rw [Item.lineFeeds, lineFeeds_eq_zero_iff.mpr h.label, lineFeeds_eq_zero_iff.mpr h.insertText]

theorem sum_lineFeeds_eq_zero {items : List Item} (h : ∀ item ∈ items, item.OneLine) :
    (items.map Item.lineFeeds).sum = 0 := by
  rw [List.sum_eq_zero_iff_forall_eq_nat]
  intro n hn
  obtain ⟨item, hitem, rfl⟩ := List.mem_map.mp hn
  exact (h item hitem).lineFeeds_eq

/-- A list takes a line for each entry, and one more for each line feed in an entry. -/
theorem lineFeeds_listText (list : CompletionList) :
    lineFeeds (Cli.listText false list) =
      list.items.length + (list.items.map Item.lineFeeds).sum := by
  have hline (item : Item) :
      lineFeeds (item.label ++ "\t" ++ item.insertText) = item.lineFeeds := by
    rw [lineFeeds_append, lineFeeds_append]
    rfl
  have htext : Cli.listText false list = Cli.printed list.lines := (Cli.printed_lines list).symm
  rw [htext, lineFeeds_printed]
  simp only [CompletionList.lines, CompletionList.pairs, Item.pair, List.map_map, List.length_map,
    Function.comp_def, hline]

theorem oneLine_of_mem_builtins {typed : String} {item : Item}
    (h : item ∈ Completion.builtins typed) : item.OneLine := by
  unfold Completion.builtins at h
  split at h
  · rw [List.mem_singleton.mp h]
    exact ⟨by decide, by decide⟩
  · rw [List.mem_singleton.mp h]
    exact ⟨by decide, by decide⟩
  · cases h

theorem oneLine_of_mem_localItems {names : List String} {item : Item}
    (hnames : ∀ name ∈ names, '\n' ∉ name.toList) (h : item ∈ Completion.localItems names) :
    item.OneLine := by
  obtain ⟨name, hname, rfl⟩ := List.mem_map.mp h
  refine ⟨?_, hnames name hname⟩
  simp [Completion.localItem, hnames name hname]

theorem not_mem_annotation {rest : List Char} (h : '\n' ∉ rest) :
    '\n' ∉ Listing.annotation rest := by
  unfold Listing.annotation
  split
  · decide
  · exact fun hmem => h (mem_of_mem_trim hmem)

theorem insertion_suffix (typed qualified : List Char) :
    Listing.insertion typed qualified <:+ qualified := by
  unfold Listing.insertion fromFirst?
  rcases hfound : longestSuffix? typed.isPrefixOf qualified with _ | found
  · exact List.suffix_rfl
  · exact (longestSuffix?_eq_some_iff.mp hfound).1

theorem oneLine_of_itemOf? {typed line : List Char} {item : Item} (hline : '\n' ∉ line)
    (h : Listing.itemOf? typed line = some item) : item.OneLine := by
  simp only [Listing.itemOf?, Option.bind_eq_bind, Option.bind_eq_some_iff, Option.some.injEq,
    Prod.exists] at h
  obtain ⟨qualified, line', hcut, display, rest, hcut', rfl⟩ := h
  obtain ⟨rfl, -⟩ := cutAt_eq_some_iff.mp hcut
  obtain ⟨rfl, -⟩ := cutAt_eq_some_iff.mp hcut'
  simp only [List.mem_append, List.mem_cons, not_or] at hline
  obtain ⟨hqualified, -, hdisplay, -, hrest⟩ := hline
  refine ⟨?_, ?_⟩
  · rw [String.toList_ofList, List.mem_append, List.mem_cons, not_or, not_or]
    exact ⟨hdisplay, by decide, not_mem_annotation hrest⟩
  · rw [String.toList_ofList]
    exact fun hmem => hqualified ((insertion_suffix typed qualified).mem hmem)

/-- However the index tool wraps its lines, an entry for one of them takes one line. -/
theorem oneLine_of_mem_entries {output typed : String} {item : Item}
    (h : item ∈ Listing.entries output typed) : item.OneLine := by
  obtain ⟨line, hline, hitem⟩ := List.mem_filterMap.mp h
  refine oneLine_of_itemOf? (fun hmem => ?_) hitem
  have hfeed := not_separator_of_mem_pieces hline hmem
  simp at hfeed

/-! ## Lists -/

/-- What a completion list looks like as lines, for a reply of the index tool. -/
structure Lined (list : CompletionList) (reply : Reply) : Prop where
  /-- Only the entry of a fault may hold line feeds: it shows the fault in the tool's own words. -/
  oneLine : ∀ item ∈ list.items, item.OneLine ∨
    ∃ fault, reply = .error fault ∧ item = ⟨fault.message, fault.message, .text, .fault⟩
  /-- An answer has a line for each entry, and so has a fault that is told in one line. -/
  lines : (∀ fault, reply = .error fault → '\n' ∉ fault.message.toList) →
    lineFeeds (Cli.listText false list) = list.items.length

theorem Lined.of_oneLine {list : CompletionList} {reply : Reply}
    (h : ∀ item ∈ list.items, item.OneLine ∨
      ∃ fault, reply = .error fault ∧ item = ⟨fault.message, fault.message, .text, .fault⟩) :
    Lined list reply := by
  refine ⟨h, fun hfault => ?_⟩
  have hall : ∀ item ∈ list.items, item.OneLine := by
    intro item hitem
    rcases h item hitem with hone | ⟨fault, hreply, rfl⟩
    · exact hone
    · exact ⟨hfault fault hreply, hfault fault hreply⟩
  rw [lineFeeds_listText, sum_lineFeeds_eq_zero hall, Nat.add_zero]

theorem lined_of_items {list : CompletionList} {names : Option (List String)} {typed : String}
    {reply : Reply} (hitems : list.items = Completion.items typed names reply)
    (hnames : ∀ name ∈ names.getD [], '\n' ∉ name.toList) : Lined list reply := by
  refine .of_oneLine fun item hitem => ?_
  rw [hitems] at hitem
  cases reply with
  | ok output =>
    simp only [Completion.items, List.mem_append] at hitem
    rcases hitem with (hbuiltin | hentry) | hlocal
    · exact Or.inl (oneLine_of_mem_builtins hbuiltin)
    · exact Or.inl (oneLine_of_mem_entries hentry)
    · exact Or.inl (oneLine_of_mem_localItems hnames hlocal)
  | error fault =>
    rcases List.mem_append.mp hitem with hwildcard | hfault
    · split at hwildcard
      · exact Or.inl (oneLine_of_mem_builtins hwildcard)
      · cases hwildcard
    · exact Or.inr ⟨fault, rfl, List.mem_singleton.mp hfault⟩

/-! ## The names that are kept -/

theorem not_line_feed_of_mem_scan {text name : String} (h : name ∈ Locals.scan text) :
    '\n' ∉ name.toList := by
  intro hmem
  have hblank : Chars.isBlank '\n' = true := by decide +kernel
  rw [Locals.isBlank_eq_false_of_mem_scan h hmem] at hblank
  cases hblank

/-- The names that a session keeps are those of a scan. -/
theorem not_line_feed_of_kept {σ : Type} (indexer : Indexer σ) (tool : σ)
    (fallbackFolders : List Path) (views : List (String × View)) (steps : List Step)
    (b : BufferId) :
    let desk := (Desk.run indexer { session := { fallbackFolders }, tool, views } steps).1
    ∀ name ∈ (desk.session.locals.get? b).getD [], '\n' ∉ name.toList := by
  intro desk name hname
  have hlocals := Desk.run_locals indexer { session := { fallbackFolders }, tool, views } steps
  rcases hnames : desk.session.locals.get? b with _ | names
  · rw [hnames] at hname
    cases hname
  · rw [hnames, Option.getD_some] at hname
    rw [hlocals] at hnames
    obtain ⟨-, o, -, rfl⟩ := (get?_cacheAfter_eq_some_iff b _ names).mp hnames
    exact not_line_feed_of_mem_scan hname

theorem not_line_feed_of_sessionFor (config : Config) (file : Path) (v : View) (b : BufferId) :
    ∀ name ∈ ((Cli.sessionFor config file v).locals.get? b).getD [], '\n' ∉ name.toList := by
  intro name hname
  unfold Cli.sessionFor Session.rescan at hname
  split at hname
  · rename_i names hnames
    obtain ⟨_, -, rfl⟩ := Option.map_eq_some_iff.mp hnames
    rw [LocalCache.get?_insert] at hname
    split at hname
    · exact not_line_feed_of_mem_scan hname
    · cases hname
  · cases hname

/-! ## The law -/

/-- A completion that a session of the program gives looks as a list does. -/
theorem lined_of_complete? {config : Config} {file : Path} {v : View} {typed : String}
    {locations : List Nat} {lookup : Lookup CompletionList}
    (h : (Cli.sessionFor config file v).complete? v typed locations = some lookup) (reply : Reply) :
    Lined (lookup.answer reply) reply := by
  obtain ⟨location, -, hlookup⟩ := Option.bind_eq_some_iff.mp h
  obtain ⟨query, -, rfl⟩ := Option.map_eq_some_iff.mp hlookup
  exact lined_of_items rfl (not_line_feed_of_sessionFor config file v v.id)

/-- Every entry of a completion takes one line, whatever the text, what is typed, the names that are
kept and the reply, but for the entry of a fault that is told in more lines than one. This holds at
whatever desk a run ends, and for what the program prints: that is the list which its own session
gives for the reply to its one call, and nothing if the session gives none. -/
theorem only_a_fault_takes_more_lines {σ : Type} (indexer : Indexer σ) (tool : σ)
    (fallbackFolders : List Path) (views : List (String × View)) (steps : List Step)
    (m : Machine) (words : List String) :
    let desk := (Desk.run indexer { session := { fallbackFolders }, tool, views } steps).1
    let report := Cli.run m words
    (∀ name view typed locations list, desk.view? name = some view →
      let asked := (desk.step indexer (.event name (.completionAsked typed locations))).2
      asked.answer = .completion (some list) →
        ∃ call, asked.calls = [call] ∧ Lined list (indexer desk.tool call).1) ∧
    ∀ a config file d word offset, Cli.Opens m words a config "complete" file d →
      a.positional[2]? = some word → Cli.readOffset d word = .ok offset →
      let view := Cli.viewOf config d
      let typed := a.typed.getD (d.buffer.wordBefore offset)
      let asked := (Cli.sessionFor config file view).complete? view typed [offset]
      (asked = none → report.calls = [] ∧ report.stdout = "") ∧
      ∀ lookup, asked = some lookup →
        let reply := Cli.replyTo m config lookup.invocation
        report.calls = [lookup.invocation] ∧ Lined (lookup.answer reply) reply ∧
          report.stdout = Cli.listText a.json (lookup.answer reply) := by
  intro desk report
  refine ⟨?_, fun a config file d word offset hopens hsaid hplaced => ?_⟩
  · intro name view typed locations list hview asked hlist
    obtain ⟨call, hcalls, hitems⟩ := completion_answered indexer desk hview hlist
    exact ⟨call, hcalls, lined_of_items hitems
      (not_line_feed_of_kept indexer tool fallbackFolders views steps view.id)⟩
  · intro view typed asked
    obtain ⟨-, hnone, hsome⟩ := Cli.run_of_asks hopens (.complete hsaid hplaced)
    refine ⟨fun hasked => ?_, fun lookup hasked => ?_⟩
    · obtain ⟨hstdout, hcalls, -⟩ := hnone (Option.map_eq_none_iff.mpr hasked)
      exact ⟨hcalls, hstdout⟩
    · have hquestion := congrArg
        (Option.map (Lookup.map fun list => Answer.completion (some list))) hasked
      obtain ⟨hstdout, hcalls, -⟩ := hsome _ hquestion
      exact ⟨hcalls, lined_of_complete? hasked _, hstdout⟩

/-- A fault that the tool tells in two lines is one entry, and it takes three lines. -/
theorem a_fault_in_two_lines_is_one_entry :
    let view : View := ⟨⟨1⟩, { Document.ofString "List.ma" with scope := "source.ocaml" }, []⟩
    let indexer : Indexer Unit := fun _ _ => (.error (.toolReported "one\ntwo"), ())
    ∃ list, (Turn.take indexer {} view () (.completionAsked "ma" [7])).answer =
        .completion (some list) ∧
      list.items.length = 1 ∧ (∀ item ∈ list.items, ¬ item.OneLine) ∧
      lineFeeds (Cli.listText false list) = 3 := by
  intro view indexer
  refine ⟨.alone [⟨"one\ntwo", "one\ntwo", .text, .fault⟩], by decide +kernel, rfl, ?_, by decide⟩
  intro item hitem hone
  rw [List.mem_singleton.mp hitem] at hone
  exact hone.label (by decide)

end OcamlAssist
