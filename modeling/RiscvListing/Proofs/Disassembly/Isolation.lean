import RiscvListing.Proofs.Disassembly.Output
import RiscvListing.Proofs.Number.Numeral

/-!
# Runs one after the other

Images that are disassembled one after the other with one journal do not influence each other but
through the files. Each run gives the result and the records that it gives alone, whatever the runs
before it met: the scopes that a fault leaves are closed on the way out. The journal after a run is
the journal before it with the records of that run behind, and in these the disassembly is announced
once at its start and once at its end. What a run leaves in the file of its listing depends on what
it finds there, so on the runs before it only if they used that file.

## Main definitions

* `Disassembly.alone` — a job done with a journal that holds nothing.
* `Disassembly.aloneRecords`, `Disassembly.aloneFiles` — the records and the files of jobs that are
  done in turn, each with a journal that holds nothing.

## Main results

* `Disassembly.disassembleTo_recordsAs` — a run announces the start and the end of its disassembly.
* `Disassembly.run_eq_alone` — a job adds the records to a journal that it makes alone.
* `Disassembly.alone_congr` — the files make no difference to the result and the records of a job.
* `Disassembly.aloneFiles_of_unused` — jobs leave all files alone but their own.
* `Disassembly.runEach_isolated` — jobs one after the other.
-/

namespace RiscvListing

/-! ### The messages of an image -/

/-- A text that starts with a numeral announces nothing. -/
theorem Message.isPlain_decimal (n : Int) (rest : String) :
    (Message.text (Numeral.decimal n ++ rest)).IsPlain := by
  obtain ⟨c, digits, hdigits⟩ : ∃ c digits, (Numeral.decimal n).toList = c :: digits :=
    List.exists_cons_of_ne_nil (Numeral.decimal_ne_nil n)
  have hmem : c ∈ (Numeral.decimal n).toList := by simp [hdigits]
  refine Message.isPlain_text (c := c) (by simp [hdigits]) ⟨?_, ?_⟩
  · rintro rfl
    exact Numeral.not_mem_decimal (by decide) (by decide) n hmem
  · rintro rfl
    exact Numeral.not_mem_decimal (by decide) (by decide) n hmem

namespace Traced

variable {α β : Type}

/-- None of the notes announces anything. -/
def IsPlain (traced : Traced α) : Prop :=
  ∀ note ∈ traced.notes, (Message.text note.text).IsPlain

theorem isPlain_pure (value : α) : IsPlain (pure value) := by
  intro note hnote
  cases hnote

theorem isPlain_lift (outcome : Except Fault α) : IsPlain (lift outcome) := by
  intro note hnote
  cases hnote

theorem isPlain_note (level : Level) {text : String} (h : (Message.text text).IsPlain) :
    IsPlain (note level text) := by
  intro other hother
  cases List.mem_singleton.mp hother
  exact h

theorem IsPlain.bind {first : Traced α} {next : α → Traced β} (h : first.IsPlain)
    (hnext : ∀ value, (next value).IsPlain) : (first >>= next).IsPlain := by
  intro note hnote
  cases hfirst : first.outcome with
  | error fault =>
    rw [notes_bind_error next hfirst] at hnote
    exact h note hnote
  | ok value =>
    rw [notes_bind_ok next hfirst, List.mem_append] at hnote
    rcases hnote with hmem | hmem
    · exact h note hmem
    · exact hnext value note hmem

end Traced

namespace Container

theorem isPlain_locate (d : Bytes) (header : Header) (condition : SectionHeader → Bool)
    {name : String} (hname : name.toList.head? = some '.') :
    (locate d header condition name).IsPlain := by
  refine .bind (Traced.isPlain_lift _) fun found => .bind (Traced.isPlain_note _ ?_) fun _ =>
    Traced.isPlain_pure _
  refine Message.isPlain_text (c := '.') ?_ (by decide)
  simp only [String.toList_append, List.append_assoc, List.head?_append]
  change (name.toList.head?.or _) = _
  rw [hname]
  rfl

theorem isPlain_locateNamed (d : Bytes) (header : Header) (names : SectionHeader) {name : String}
    (hname : name.toList.head? = some '.') : (locateNamed d header names name).IsPlain :=
  .bind (Traced.isPlain_lift _) fun _ => isPlain_locate d header _ hname

/-- The notes on an image start with the name of a section or with that of the header. -/
theorem isPlain_read (d : Bytes) : (read d).IsPlain := by
  refine .bind (Traced.isPlain_lift _) fun header => .bind (Traced.isPlain_note _ ?_) fun _ =>
    .bind (Traced.isPlain_lift _) fun names =>
    .bind (isPlain_locateNamed _ _ _ (by decide)) fun code =>
    .bind (isPlain_locateNamed _ _ _ (by decide)) fun symbolNames =>
    .bind (isPlain_locate _ _ _ (by decide)) fun symbolSection =>
    .bind (Traced.isPlain_lift _) fun table => .bind (Traced.isPlain_note _ ?_) fun _ => ?_
  · exact Message.isPlain_text (c := 'E') (by simp only [String.toList_append]; rfl) (by decide)
  · exact Message.isPlain_text (c := '.') (by simp only [String.toList_append]; rfl) (by decide)
  · dsimp only
    split
    · refine .bind (Traced.isPlain_note _ ?_) fun _ => Traced.isPlain_pure _
      exact Message.isPlain_text (c := '.') (by simp only [String.toList_append]; rfl) (by decide)
    · exact .bind (Traced.isPlain_pure _) fun _ => Traced.isPlain_pure _

end Container

namespace Disassembly

/-! ### The records of a run -/

theorem load_recordsAs (settings : Settings) (content : Bytes) :
    (load settings content).RecordsAs Record.ArePlain := by
  have hparse : (Run.within "parse" (Run.follow (Container.read content))).RecordsAs
      Record.ArePlain := (Run.recordsAs_follow (Container.isPlain_read content)).within _
  unfold load
  split
  · refine .then (Run.recordsAs_log _ ?_) fun _ => .then (Run.recordsAs_lift _) fun _ => hparse
    exact Message.isPlain_text (c := 'F') (by simp only [String.toList_append]; rfl) (by decide)
  · exact .then (Run.recordsAs_pure ()) fun _ => hparse

theorem resolve_recordsAs (settings : Settings) (content : Bytes) (container : Container) :
    (resolve settings content container).RecordsAs Record.ArePlain := by
  refine .within (.then (Run.recordsAs_lift _) fun words => .then (Run.recordsAs_lift _)
    fun resolution => .then (Run.recordsAs_log _ ?_) fun _ => Run.recordsAs_pure _) _
  exact Message.isPlain_text (c := 'R') (by simp only [String.toList_append]; rfl) (by decide)

/-- A disassembly announces its start and its end, whether or not it fails in between. -/
theorem disassemble_recordsAs (settings : Settings) (source : Source) :
    (disassemble settings source).RecordsAs (Record.IsTimed s!"disassembly of {source.name}") := by
  have hsteps : (do
      Run.lift (source.refusal.elim (.ok ()) .error)
      let container ← load settings source.content
      let resolution ← resolve settings source.content container
      let lines ← Run.within "decode" (Run.lift (decodeAll source.content container resolution))
      return (container, resolution, lines) : Run _).RecordsAs Record.ArePlain :=
    .then (Run.recordsAs_lift _) fun _ => .then (load_recordsAs _ _) fun container =>
      .then (resolve_recordsAs _ _ _) fun resolution =>
      .then (.within (Run.recordsAs_lift _) _) fun lines => Run.recordsAs_pure _
  refine .log_bind ?_ (.bind (hsteps.timed _) (fun _ => .then (Run.recordsAs_log _ ?_) fun _ =>
    Run.recordsAs_pure _) fun _ _ => Record.IsTimed.append)
  · exact Message.isPlain_text (c := 'D') (by simp only [String.toList_append]; rfl) (by decide)
  · simp only [String.append_assoc]
    exact Message.isPlain_decimal _ _

/-- A run as one recorded computation. -/
def disassembleTo (settings : Settings) (source : Source) (destination : Destination) :
    Run Disassembly := do
  let d ← disassemble settings source
  Run.within "write" do
    Run.lift (write settings destination d).1
    Run.log .info s!"Listing written to {destination.path}"
    return d

theorem outcome_disassembleTo (settings : Settings) (source : Source) (destination : Destination)
    (journal : Journal) :
    (disassembleTo settings source destination).outcome journal =
      ((run settings source destination journal).result,
        (run settings source destination journal).journal) := by
  rw [disassembleTo, run, Run.outcome_bind]
  obtain ⟨_ | d, after⟩ := (disassemble settings source).outcome journal
  · rfl
  · rfl

theorem disassembleTo_recordsAs (settings : Settings) (source : Source)
    (destination : Destination) :
    (disassembleTo settings source destination).RecordsAs
      (Record.IsTimed s!"disassembly of {source.name}") := by
  refine .bind (disassemble_recordsAs settings source) (fun d => .within
    (.then (Run.recordsAs_lift _) fun _ => .then (Run.recordsAs_log _ ?_) fun _ =>
      Run.recordsAs_pure _) _) fun _ _ => Record.IsTimed.append
  exact Message.isPlain_text (c := 'L') (by simp only [String.toList_append]; rfl) (by decide)

/-! ### Runs with any journal and any files -/

/-- What the file holds after a run does not depend on what the journal holds. -/
theorem output_run_eq (settings : Settings) (source : Source) (destination : Destination)
    (journal other : Journal) :
    (run settings source destination journal).output =
      (run settings source destination other).output := by
  have hyields := disassemble_yields settings source
  cases hresult : result settings source with
  | error fault =>
    rw [hresult] at hyields
    rw [output_run_of_error (hyields journal), output_run_of_error (hyields other)]
  | ok d =>
    rw [hresult] at hyields
    rw [output_run_of_ok (hyields journal), output_run_of_ok (hyields other)]

/-- A run gives the same result with every journal and adds the same records to it. -/
theorem exists_records_run (settings : Settings) (source : Source) (destination : Destination) :
    ∃ (result : Except Fault Disassembly) (records : Option String → List Record),
      (∀ journal, (run settings source destination journal).result = result ∧
        (run settings source destination journal).journal =
          journal.addAll (records journal.operation)) ∧
      ∀ operation, Record.IsTimed s!"disassembly of {source.name}" (records operation) := by
  obtain ⟨result, records, hrecords, htimed⟩ :=
    disassembleTo_recordsAs settings source destination
  refine ⟨result, records, ?_, htimed⟩
  intro journal
  rw [← Prod.mk.injEq, ← outcome_disassembleTo, hrecords]

/-- What the file of the listing holds makes no difference to a run as a recorded computation. -/
theorem disassembleTo_congr (settings : Settings) (source : Source)
    {destination other : Destination} (hpath : destination.path = other.path)
    (hrefusal : destination.refusal = other.refusal) :
    disassembleTo settings source destination = disassembleTo settings source other := by
  -- The content of the file shows only in what the writing leaves, not in whether it fails.
  have hwrite : ∀ d, (write settings destination d).1 = (write settings other d).1 := by
    intro d
    cases hother : other.refusal with
    | none => rw [write_of_accepted (hrefusal.trans hother), write_of_accepted hother]
    | some fault => rw [write_of_refusal (hrefusal.trans hother), write_of_refusal hother]
  simp only [disassembleTo, hpath, hwrite]

/-- A job done with a journal that holds nothing. -/
def alone (settings : Settings) (journal : Journal) (files : Files) (job : Job) : Report :=
  job.run settings files { journal with records := #[] }

/-- To a journal a job adds the records that it makes alone, and it leaves the operation under way
as it was. -/
theorem run_eq_alone (settings : Settings) (job : Job) (files : Files) (journal : Journal) :
    (job.run settings files journal).result = (alone settings journal files job).result ∧
      (job.run settings files journal).output = (alone settings journal files job).output ∧
      (job.run settings files journal).journal =
        { journal with
          records := journal.records ++ (alone settings journal files job).journal.records } := by
  obtain ⟨result, records, hrun, -⟩ :=
    exists_records_run settings job.source (job.destination files)
  obtain ⟨hresult, hjournal⟩ := hrun journal
  obtain ⟨hresultAlone, hjournalAlone⟩ := hrun { journal with records := #[] }
  refine ⟨hresult.trans hresultAlone.symm, output_run_eq settings job.source _ _ _, ?_⟩
  rw [alone, Job.run, Job.run, hjournal, hjournalAlone, Journal.addAll_eq, Journal.addAll_eq,
    Array.empty_append]

/-- A job has the same result and makes the same records whatever the files hold. -/
theorem alone_congr (settings : Settings) (journal : Journal) (files other : Files) (job : Job) :
    (alone settings journal files job).result = (alone settings journal other job).result ∧
      (alone settings journal files job).journal = (alone settings journal other job).journal := by
  have hsame : disassembleTo settings job.source (job.destination files) =
      disassembleTo settings job.source (job.destination other) :=
    disassembleTo_congr settings job.source rfl rfl
  rw [← Prod.mk.injEq, alone, alone, Job.run, Job.run, ← outcome_disassembleTo,
    ← outcome_disassembleTo, hsame]

/-- Of the files a job looks only at its own. -/
theorem Job.destination_congr {job : Job} {files other : Files}
    (h : files job.target = other job.target) : job.destination files = job.destination other := by
  simp only [destination, place, Files.put, h]

theorem Job.content_destination {job : Job} (h : job.source.path ≠ job.target) (files : Files) :
    (job.destination files).content = files job.target :=
  if_neg (Ne.symm h)

/-- A job whose disassembly fails leaves the file of its listing as it finds it. -/
theorem alone_of_error {settings : Settings} {job : Job} {fault : Fault}
    (h : result settings job.source = .error fault) (journal : Journal) (files : Files) :
    (alone settings journal files job).result = .error fault ∧
      (alone settings journal files job).output = (job.destination files).content := by
  have hyields := (disassemble_yields settings job.source { journal with records := #[] }).trans h
  exact ⟨result_run_of_error hyields, output_run_of_error hyields⟩

/-- A job whose disassembly succeeds leaves the listing, if the listing can be written. -/
theorem alone_of_ok {settings : Settings} {job : Job} {d : Disassembly}
    (h : result settings job.source = .ok d) (hrefusal : job.refusal = none)
    (hencodable : Listing.IsEncodable settings.encoding d.lines d.symbols) (journal : Journal)
    (files : Files) :
    (alone settings journal files job).result = .ok d ∧
      (alone settings journal files job).output =
        some (Listing.file settings.encoding d.lines d.symbols).1 := by
  have hyields := (disassemble_yields settings job.source { journal with records := #[] }).trans h
  have hwrite : write settings (job.destination files) d =
      (.ok (), some (Listing.file settings.encoding d.lines d.symbols).1) := by
    rw [write_of_accepted hrefusal, Listing.file_snd_eq_none_iff.mpr hencodable]
    rfl
  constructor
  · rw [alone, Job.run, result_run_of_ok hyields, hwrite]
    rfl
  · rw [alone, Job.run, output_run_of_ok hyields, hwrite]

/-- A journal that keeps everything has one start and one end of the disassembly. -/
theorem isTimed_alone (settings : Settings) (files : Files) (job : Job) {journal : Journal}
    (h : journal.threshold = .debug) :
    Record.IsTimed s!"disassembly of {job.source.name}"
      (alone settings journal files job).journal.records.toList := by
  obtain ⟨result, records, hrun, htimed⟩ :=
    exists_records_run settings job.source (job.destination files)
  have hall : ∀ record : Record, record.level.meets .debug = true := by
    intro record
    cases record.level <;> rfl
  rw [alone, Job.run, (hrun _).2, Journal.addAll_eq]
  simpa [h, hall] using htimed journal.operation

/-! ### Runs one after the other -/

/-- The records that jobs make, each alone. -/
def aloneRecords (settings : Settings) (journal : Journal) (files : Files) (jobs : List Job) :
    List Record :=
  jobs.flatMap fun job => (alone settings journal files job).journal.records.toList

/-- The files after jobs that are done in turn, each with a journal that holds nothing. -/
def aloneFiles (settings : Settings) (journal : Journal) (files : Files) (jobs : List Job) :
    Files :=
  jobs.foldl (fun files job => job.filesAfter files (alone settings journal files job)) files

theorem aloneFiles_concat (settings : Settings) (journal : Journal) (files : Files)
    (jobs : List Job) (job : Job) :
    aloneFiles settings journal files (jobs ++ [job]) =
      job.filesAfter (aloneFiles settings journal files jobs)
        (alone settings journal (aloneFiles settings journal files jobs) job) := by
  rw [aloneFiles, List.foldl_append, List.foldl_cons, List.foldl_nil, ← aloneFiles]

/-- The files that a job uses: its image and its listing. -/
def Job.Uses (job : Job) (path : String) : Prop :=
  job.source.path = path ∨ job.target = path

instance (job : Job) (path : String) : Decidable (job.Uses path) :=
  inferInstanceAs (Decidable (_ ∨ _))

theorem Job.filesAfter_target (job : Job) (files : Files) (report : Report) :
    job.filesAfter files report job.target = report.output :=
  if_pos rfl

theorem Job.filesAfter_of_unused {job : Job} {path : String} (h : ¬job.Uses path) (files : Files)
    (report : Report) : job.filesAfter files report path = files path := by
  obtain ⟨himage, htarget⟩ := not_or.mp h
  rw [filesAfter, place, Files.put, if_neg (Ne.symm htarget), Files.put, if_neg (Ne.symm himage)]

/-- A file that no job uses stays as it is. -/
theorem aloneFiles_of_unused {settings : Settings} {journal : Journal} {jobs : List Job}
    {path : String} (h : ∀ job ∈ jobs, ¬job.Uses path) (files : Files) :
    aloneFiles settings journal files jobs path = files path := by
  induction jobs generalizing files with
  | nil => rfl
  | cons job rest ih =>
    have hrest := ih (fun other hother => h other (List.mem_cons_of_mem _ hother))
      (job.filesAfter files (alone settings journal files job))
    exact hrest.trans (Job.filesAfter_of_unused (h job List.mem_cons_self) _ _)

theorem aloneRecords_congr (settings : Settings) (journal : Journal) (files other : Files)
    (jobs : List Job) :
    aloneRecords settings journal files jobs = aloneRecords settings journal other jobs := by
  simp only [aloneRecords, (alone_congr settings journal files other _).2]

theorem length_runEach (settings : Settings) (jobs : List Job) (files : Files) (journal : Journal) :
    (runEach settings jobs files journal).length = jobs.length := by
  induction jobs generalizing files journal with
  | nil => rfl
  | cons job rest ih => rw [runEach, List.length_cons, List.length_cons, ih]

/-- A job starts with the journal of the first one, to which the jobs in between have added their
records, and with the files as these jobs would have left them alone. -/
theorem getElem?_runEach (settings : Settings) {jobs : List Job} {k : Nat} {job : Job}
    (files : Files) (journal : Journal) (h : jobs[k]? = some job) :
    (runEach settings jobs files journal)[k]? =
      some (job.run settings (aloneFiles settings journal files (jobs.take k))
        { journal with
          records := journal.records ++
            (aloneRecords settings journal files (jobs.take k)).toArray }) := by
  induction jobs generalizing k files journal with
  | nil => simp at h
  | cons first rest ih =>
    cases k with
    | zero =>
      cases Option.some.inj h
      simp [runEach, aloneRecords, aloneFiles]
    | succ k =>
      -- The job in front has added its own records; what the others make alone stays the same.
      obtain ⟨-, houtput, hjournal⟩ := run_eq_alone settings first files journal
      -- What it has left in its file is what it leaves alone, so the others find the same files.
      have hfiles : first.filesAfter files (first.run settings files journal) =
          first.filesAfter files (alone settings journal files first) := by
        rw [Job.filesAfter, houtput, Job.filesAfter]
      have hearlier : aloneRecords settings journal files ((first :: rest).take (k + 1)) =
          (alone settings journal files first).journal.records.toList ++
            aloneRecords settings journal
              (first.filesAfter files (alone settings journal files first)) (rest.take k) := by
        rw [List.take_succ_cons, aloneRecords, List.flatMap_cons, ← aloneRecords,
          aloneRecords_congr]
      rw [List.getElem?_cons_succ] at h
      rw [runEach, List.getElem?_cons_succ, hjournal, hfiles, ih _ _ h, hearlier]
      simp only [Array.append_assoc, ← List.append_toArray, Array.toArray_toList]
      rfl

/-- Images that are disassembled one after the other with one journal do not influence each other.
Each run gives the result and the records that it gives with a journal that holds nothing, whatever
the files hold, and leaves the operation under way as it was. It leaves in the file of its listing
what it leaves there with a journal that holds nothing, after the runs before it have been made in
the same way; that is what it leaves as the first of all runs if none before it uses the file. A
journal that keeps everything has, among the records of a run, one start and behind it one end of
the disassembly. -/
theorem runEach_isolated (settings : Settings) (jobs : List Job) (files : Files)
    (journal : Journal) (k : Nat) (job : Job) (h : jobs[k]? = some job) :
    (runEach settings jobs files journal).length = jobs.length ∧
    ∃ report, (runEach settings jobs files journal)[k]? = some report ∧
      report.result = (alone settings journal files job).result ∧
      report.output =
        (alone settings journal (aloneFiles settings journal files (jobs.take k)) job).output ∧
      ((∀ earlier ∈ jobs.take k, ¬earlier.Uses job.target) →
        report.output = (alone settings journal files job).output) ∧
      report.journal.operation = journal.operation ∧
      report.journal.records.toList = journal.records.toList ++
        aloneRecords settings journal files (jobs.take k) ++
          (alone settings journal files job).journal.records.toList ∧
      (journal.threshold = .debug → Record.IsTimed s!"disassembly of {job.source.name}"
        (alone settings journal files job).journal.records.toList) := by
  refine ⟨length_runEach settings jobs files journal, _, getElem?_runEach settings files journal h,
    ?_⟩
  obtain ⟨hresult, houtput, hjournal⟩ := run_eq_alone settings job
    (aloneFiles settings journal files (jobs.take k))
    { journal with
      records := journal.records ++ (aloneRecords settings journal files (jobs.take k)).toArray }
  obtain ⟨hsameResult, hsameJournal⟩ := alone_congr settings journal
    (aloneFiles settings journal files (jobs.take k)) files job
  refine ⟨hresult.trans hsameResult, houtput, fun hunused => ?_, ?_, ?_,
    isTimed_alone settings files job⟩
  · -- The job finds its file as it was at the start.
    refine houtput.trans ?_
    rw [alone, alone, Job.run, Job.run, Job.destination_congr (aloneFiles_of_unused hunused files)]
  · rw [hjournal]
  · rw [hjournal, ← hsameJournal, Array.toList_append, Array.toList_append]
    rfl

/-- The listing of an image of one word. -/
def accentedTo (target : String) (word : Word) : Job where
  source := accented word
  target := target

/-- A word that is no instruction, an instruction and the word again, all with their listing in one
file, and the word with its listing in another one. -/
def retries : List Job :=
  [accentedTo "/listing" 0#32, accentedTo "/listing" 0x13#32, accentedTo "/listing" 0#32,
   accentedTo "/copy" 0#32]

/-- There is nothing but an older listing in the other file. -/
def onlyCopy : Files := fun path => if path = "/copy" then older.content else none

/-- A journal of all records in the middle of an operation. -/
def batchJournal : Journal := ⟨.debug, some "batch", #[]⟩

/-- The third run fails like the first one, and leaves the listing of the second one in their file.
The last one finds the other file as it was at the start. -/
theorem runEach_isolated_retries :
    ∃ d second third fourth,
      (runEach {} retries onlyCopy batchJournal)[1]? = some second ∧
      (runEach {} retries onlyCopy batchJournal)[2]? = some third ∧
      (runEach {} retries onlyCopy batchJournal)[3]? = some fourth ∧
      second.result = .ok d ∧
      third.result = .error (.unexpectedInstruction 0 (some 0x10000)) ∧
      third.output = some (Listing.file "utf-8" d.lines d.symbols).1 ∧
      third.journal.operation = some "batch" ∧
      Record.IsTimed "disassembly of accented"
        (third.journal.records.toList.drop
          (aloneRecords {} batchJournal onlyCopy (retries.take 2)).length) ∧
      (∀ earlier ∈ retries.take 3, ¬earlier.Uses "/copy") ∧
      fourth.output = onlyCopy "/copy" := by
  obtain ⟨-, second, hsecond, hlisted, -⟩ :=
    runEach_isolated {} retries onlyCopy batchJournal 1 _ rfl
  obtain ⟨-, third, hthird, hresult, houtput, -, hoperation, hrecords, htimed⟩ :=
    runEach_isolated {} retries onlyCopy batchJournal 2 _ rfl
  obtain ⟨-, fourth, hfourth, -, -, hcopy, -⟩ :=
    runEach_isolated {} retries onlyCopy batchJournal 3 _ rfl
  have hunused : ∀ earlier ∈ retries.take 3, ¬earlier.Uses "/copy" := by decide
  have hfault : result {} (accented 0#32) = .error (.unexpectedInstruction 0 (some 0x10000)) := by
    decide +kernel
  have hfailed := fun target =>
    alone_of_error (show result {} (accentedTo target 0#32).source = _ from hfault) batchJournal
  have hdone : (result {} (accentedTo "/listing" 0x13#32).source).map path = .ok "/accented" := by
    decide +kernel
  obtain ⟨d, hd, -⟩ := Fault.map_eq_ok_iff.mp hdone
  have hwritten := alone_of_ok hd rfl (Listing.isEncodable_of_limit?_eq_none
    (show Charset.ofName? "utf-8" = some .utf8 by decide +kernel) rfl) batchJournal
  have hearlier : retries.take 2 = retries.take 1 ++ [accentedTo "/listing" 0x13#32] := rfl
  refine ⟨d, second, third, fourth, hsecond, hthird, hfourth, hlisted.trans (hwritten _).1,
    hresult.trans (hfailed _ _).1, houtput.trans ?_, hoperation, ?_, hunused,
    (hcopy hunused).trans ?_⟩
  · rw [(hfailed _ _).2, hearlier, aloneFiles_concat, Job.content_destination (by decide)]
    exact (Job.filesAfter_target _ _ _).trans (hwritten _).2
  · have hempty : batchJournal.records.toList = [] := rfl
    rw [hrecords, hempty, List.nil_append, List.drop_left]
    exact htimed rfl
  · exact (hfailed _ _).2.trans (Job.content_destination (by decide) _)

end Disassembly

end RiscvListing
