import GridPolicy.Proofs.Policy.Invocation
import GridPolicy.Proofs.Run.Paired
import GridPolicy.Proofs.Text.Ordered

/-!
# The time of access below a collection

An operation on a collection stamps every object in and below it. The policy asks for the
owner of the collection and then for the objects, once for those directly in it and once for
those further down, and it writes nothing before all three questions are answered. The rows
of both answers are read as paths, and each path is written to once, in ascending order,
whatever becomes of the writes before it. What is refused is reported in that order.
-/
namespace GridPolicy.AccessTime

def ownerCall (collection : String) : Call := .query (collectionOwnerQuery collection) 1 .general

def memberCall (collection : String) : Call := .query (memberQuery collection) 0 .general

def descendantCall (collection : String) : Call :=
  .query (descendantQuery collection) 0 .general

def writeCall (stamp : Stamp) (path : String) : Call :=
  .modifyMetadata .set .dataObject path ⟨stamp.label, stamp.time, ""⟩ stamp.owner

/-- What is asked before anything is written. -/
def questions (collection : String) : List Entry :=
  [.call (ownerCall collection), .call (memberCall collection), .call (descendantCall collection)]

/-- The attribute that is configured, or else the usual one. -/
def labelIn (configuration : Document) : String :=
  (configuration.filledField? "attribute").getD defaultAttribute

/-- Whom the writes are made as: the owner that the first row names, or else the user who
acts. If neither has a name it is nobody. -/
inductive WritesAs (user : String) : List Row → Option String → Prop
  | owner {name : String} {columns : Row} {rest : List Row} (hname : name ≠ "") :
      WritesAs user ((name :: columns) :: rest) (some name)
  | user {owners : List Row}
      (hunknown : ∀ name columns rest, owners = (name :: columns) :: rest → name = "")
      (huser : user ≠ "") : WritesAs user owners (some user)
  | nobody {owners : List Row}
      (hunknown : ∀ name columns rest, owners = (name :: columns) :: rest → name = "")
      (huser : user = "") : WritesAs user owners none

/-- The paths are those of the rows that have two columns or more, each of them once. -/
structure Covers (paths : List String) (rows : List Row) : Prop where
  ascending : paths.Pairwise (· < ·)
  mem_iff : ∀ path, path ∈ paths ↔
    ∃ collection name columns, collection :: name :: columns ∈ rows ∧
      path = LogicalPath.join collection name

/-- How the writes end: well if none is refused, and otherwise with all that are. -/
def conclusion : List (String × ServiceError) → Outcome PolicyError Document
  | [] => .done .null
  | refused => .failed (.aggregated (refused.map fun r => failureOf name r.1 r.2))

/-- What becomes of stamping a collection. Once a question is refused nothing more is asked,
and nothing is written. Otherwise each path is written to, and the end depends on which of the
writes are refused. -/
inductive Stamps (grid : Grid) (log : List Entry) (collection user label : String) :
    Outcome PolicyError Document × List Entry → Prop
  | ownerUnknown {e : ServiceError}
      (howners : rowsFound (grid.answer log (ownerCall collection)) = .error e) :
      Stamps grid log collection user label
        (.failed (.service e), log ++ (questions collection).take 1)
  | membersUnknown {owners : List Row} {e : ServiceError}
      (howners : rowsFound (grid.answer log (ownerCall collection)) = .ok owners)
      (hmembers : rowsFound (grid.answer (log ++ (questions collection).take 1)
        (memberCall collection)) = .error e) :
      Stamps grid log collection user label
        (.failed (.service e), log ++ (questions collection).take 2)
  | descendantsUnknown {owners members : List Row} {e : ServiceError}
      (howners : rowsFound (grid.answer log (ownerCall collection)) = .ok owners)
      (hmembers : rowsFound (grid.answer (log ++ (questions collection).take 1)
        (memberCall collection)) = .ok members)
      (hdescendants : rowsFound (grid.answer (log ++ (questions collection).take 2)
        (descendantCall collection)) = .error e) :
      Stamps grid log collection user label
        (.failed (.service e), log ++ questions collection)
  | stamped {owners members descendants : List Row} {owner : Option String} {paths : List String}
      (howners : rowsFound (grid.answer log (ownerCall collection)) = .ok owners)
      (hmembers : rowsFound (grid.answer (log ++ (questions collection).take 1)
        (memberCall collection)) = .ok members)
      (hdescendants : rowsFound (grid.answer (log ++ (questions collection).take 2)
        (descendantCall collection)) = .ok descendants)
      (howner : WritesAs user owners owner)
      (hpaths : Covers paths (members ++ descendants)) :
      Stamps grid log collection user label
        (conclusion (grid.refusals (writeCall ⟨label, toString grid.now, owner⟩)
            (log ++ questions collection) paths),
          log ++ questions collection ++ paths.map fun path =>
            .call (writeCall ⟨label, toString grid.now, owner⟩ path))

/-- The grids differ at most in the order in which they list the objects in and below the
collection, and in how often they list each. -/
structure Relisted (collection : String) (grid grid' : Grid) : Prop where
  now : grid'.now = grid.now
  members : ∀ log, SameRows (rowsFound (grid.answer log (memberCall collection)))
    (rowsFound (grid'.answer log (memberCall collection)))
  descendants : ∀ log, SameRows (rowsFound (grid.answer log (descendantCall collection)))
    (rowsFound (grid'.answer log (descendantCall collection)))
  others : ∀ log call, call ≠ memberCall collection → call ≠ descendantCall collection →
    grid'.answer log call = grid.answer log call

variable {grid grid' : Grid} {log : List Entry} {collection : String} {invoke : Invoker}
  {i : Invocation}

/-- In any case the owner is asked for. -/
theorem Stamps.asks_owner {user label : String} {run : Outcome PolicyError Document × List Entry}
    (h : Stamps grid log collection user label run) :
    ∃ rest, run.2 = log ++ .call (ownerCall collection) :: rest := by
  cases h with
  | stamped => exact ⟨_, List.append_assoc ..⟩
  | _ => exact ⟨_, rfl⟩

theorem pathOfRow?_eq_some {row : Row} {path : String} :
    pathOfRow? row = some path ↔ ∃ collection name columns,
      row = collection :: name :: columns ∧ path = LogicalPath.join collection name := by
  unfold pathOfRow?
  split
  · simp [eq_comm]
  · rename_i hshort
    refine iff_of_false nofun ?_
    rintro ⟨collection, name, columns, hrow, -⟩
    exact hshort collection name columns hrow

theorem covers_ordered (rows : List Row) :
    Covers (Text.ordered (rows.filterMap pathOfRow?)) rows where
  ascending := Text.pairwise_ordered _
  mem_iff path := by
    rw [Text.mem_ordered, List.mem_filterMap]
    simp only [pathOfRow?_eq_some]
    constructor
    · rintro ⟨_, hrow, collection, name, columns, rfl, hpath⟩
      exact ⟨collection, name, columns, hrow, hpath⟩
    · rintro ⟨collection, name, columns, hrow, hpath⟩
      exact ⟨_, hrow, collection, name, columns, rfl, hpath⟩

/-- The owner in the first row, if it has a name, and otherwise the user. -/
theorem writesAs_or (user : String) (owners : List Row) :
    WritesAs user owners (((owners.head?.bind List.head?).filter fun name => name != "").or
      (if user == "" then none else some user)) := by
  have hnobody (hunknown : ∀ name columns rest, owners = (name :: columns) :: rest → name = "") :
      WritesAs user owners (if user == "" then none else some user) := by
    by_cases huser : user = ""
    · simpa [huser] using WritesAs.nobody hunknown huser
    · simpa [huser] using WritesAs.user hunknown huser
  match owners with
  | [] => exact hnobody nofun
  | [] :: _ => exact hnobody nofun
  | (name :: columns) :: rest =>
    by_cases hname : name = ""
    · subst hname
      exact hnobody fun _ _ _ heq => (List.cons.inj (List.cons.inj heq).1).1.symm
    · simpa [Option.filter, hname] using WritesAs.owner hname

/-- The owner as the rows of an answer give it. -/
theorem owner?_of_rows {owners : List Row}
    (h : rowsFound (grid.answer log (ownerCall collection)) = .ok owners) :
    owner? (collectionOwnerQuery collection) grid log =
      (.done ((owners.head?.bind List.head?).filter fun name => name != ""),
        log ++ [.call (ownerCall collection)]) :=
  Run.bind_of_done (Run.queryRows_of_rows h)

theorem owner?_of_refused {e : ServiceError}
    (h : rowsFound (grid.answer log (ownerCall collection)) = .error e) :
    owner? (collectionOwnerQuery collection) grid log =
      (.failed e, log ++ [.call (ownerCall collection)]) :=
  Run.bind_of_stop (Run.queryRows_of_refused h) rfl

theorem objectsBeneath_of_members_refused {e : ServiceError}
    (h : rowsFound (grid.answer log (memberCall collection)) = .error e) :
    objectsBeneath collection grid log = (.failed e, log ++ [.call (memberCall collection)]) :=
  Run.bind_of_stop (Run.queryRows_of_refused h) rfl

section Listings

variable {members : List Row}
  (hmembers : rowsFound (grid.answer log (memberCall collection)) = .ok members)

include hmembers

theorem objectsBeneath_of_descendants_refused {e : ServiceError}
    (hdescendants : rowsFound (grid.answer (log ++ [.call (memberCall collection)])
      (descendantCall collection)) = .error e) :
    objectsBeneath collection grid log =
      (.failed e, log ++ [.call (memberCall collection)] ++
        [.call (descendantCall collection)]) := by
  unfold objectsBeneath
  rw [Run.bind_of_done (Run.queryRows_of_rows hmembers)]
  exact Run.bind_of_stop (Run.queryRows_of_refused hdescendants) rfl

theorem objectsBeneath_of_rows {descendants : List Row}
    (hdescendants : rowsFound (grid.answer (log ++ [.call (memberCall collection)])
      (descendantCall collection)) = .ok descendants) :
    objectsBeneath collection grid log =
      (.done (Text.ordered ((members ++ descendants).filterMap pathOfRow?)),
        log ++ [.call (memberCall collection)] ++ [.call (descendantCall collection)]) := by
  unfold objectsBeneath
  rw [Run.bind_of_done (Run.queryRows_of_rows hmembers)]
  exact Run.bind_of_done (Run.queryRows_of_rows hdescendants)

end Listings

/-- Every write is made, whatever became of those before it. -/
theorem writeAll_apply (policy : String) (stamp : Stamp) (paths : List String) (grid : Grid)
    (log : List Entry) :
    writeAll policy stamp paths grid log =
      (.done ((grid.refusals (writeCall stamp) log paths).map fun refused =>
          failureOf policy refused.1 refused.2),
        log ++ paths.map fun path => .call (writeCall stamp path)) := by
  refine Run.tryAll_apply (writeAll policy stamp) (writeCall stamp) (failureOf policy) rfl ?_
    paths grid log
  intro path rest
  refine bind_congr fun result => bind_congr fun _ => ?_
  cases result <;> rfl

theorem ofExcept_ofFailures_apply (refused : List (String × ServiceError)) (grid : Grid)
    (log : List Entry) :
    (do
      Run.ofExcept (PolicyError.ofFailures (refused.map fun r => failureOf name r.1 r.2))
      return Document.null : Run PolicyError Document) grid log = (conclusion refused, log) := by
  cases refused <;> rfl

theorem body_of_unnamed (hpath : (Capture.ofParameters i.parameters .root).logicalPath = "")
    (log : List Entry) :
    body invoke i grid log =
      (.failed (.invalidInput i.policy "requires user_name and logical_path"), log) := by
  unfold body
  simp only [hpath, beq_self_eq_true, ↓reduceIte, Invocation.refuse, Run.fail_bind]
  rfl

/-- The text of the policy, question by question. -/
theorem body_stamps (hname : i.policy = name)
    (hflagged : isCollectionOperation i.parameters = true)
    (hpath : (Capture.ofParameters i.parameters .root).logicalPath ≠ "") (grid : Grid)
    (log : List Entry) :
    Stamps grid log (Capture.ofParameters i.parameters .root).logicalPath
      (Capture.ofParameters i.parameters .root).userName (labelIn i.configuration)
      (body invoke i grid log) := by
  unfold body
  dsimp only
  generalize Capture.ofParameters i.parameters .root = captured at hpath ⊢
  obtain ⟨user, collection, source, destination⟩ := captured
  dsimp only at hpath ⊢
  rw [if_neg (by simpa using hpath), hname,
    Run.bind_of_done (show Run.now grid log = (.done grid.now, log) from rfl), if_pos hflagged]
  have hasked : log ++ [.call (ownerCall collection)] ++ [.call (memberCall collection)] ++
      [.call (descendantCall collection)] = log ++ questions collection := by simp [questions]
  -- one question after the other: the first that is refused decides
  cases howners : rowsFound (grid.answer log (ownerCall collection)) with
  | error e =>
    rw [Run.bind_of_stop (Run.mapError_of_failed (owner?_of_refused howners)) rfl]
    exact .ownerUnknown howners
  | ok owners =>
    rw [Run.bind_of_done (Run.mapError_apply_eq_done.mpr (owner?_of_rows howners))]
    cases hmembers : rowsFound (grid.answer (log ++ [.call (ownerCall collection)])
        (memberCall collection)) with
    | error e =>
      rw [Run.bind_of_stop (Run.mapError_of_failed
        (objectsBeneath_of_members_refused hmembers)) rfl, List.append_assoc]
      exact .membersUnknown howners hmembers
    | ok members =>
      cases hdescendants : rowsFound (grid.answer (log ++ [.call (ownerCall collection)] ++
          [.call (memberCall collection)]) (descendantCall collection)) with
      | error e =>
        rw [Run.bind_of_stop (Run.mapError_of_failed
          (objectsBeneath_of_descendants_refused hmembers hdescendants)) rfl, hasked]
        rw [List.append_assoc] at hdescendants
        exact .descendantsUnknown howners hmembers hdescendants
      | ok descendants =>
        rw [Run.bind_of_done (Run.mapError_apply_eq_done.mpr
          (objectsBeneath_of_rows hmembers hdescendants)), Run.bind_of_done (writeAll_apply ..),
          ofExcept_ofFailures_apply, hasked]
        rw [List.append_assoc] at hdescendants
        exact .stamped howners hmembers hdescendants (writesAs_or user owners)
          (covers_ordered _)

theorem writeAll_paired (h : Relisted collection grid grid') (policy : String) (stamp : Stamp)
    (paths : List String) :
    Run.Paired Eq grid grid' (writeAll policy stamp paths) (writeAll policy stamp paths) := by
  induction paths with
  | nil => exact .pure rfl
  | cons path rest ih =>
    refine .bind (.attempt (.ask fun log => h.others log _ nofun nofun)) ?_
    rintro result _ rfl
    refine .bind ih ?_
    rintro failures _ rfl
    cases result with
    | ok _ => exact .pure rfl
    | error e => exact .pure rfl

/-- Once the paths are in order nothing is left of the order of the rows. -/
theorem objectsBeneath_paired (h : Relisted collection grid grid') :
    Run.Paired Eq grid grid' (objectsBeneath collection) (objectsBeneath collection) := by
  refine .bind (.queryRows h.members) fun members members' hmembers => ?_
  refine .bind (.queryRows h.descendants) fun descendants descendants' hdescendants => ?_
  refine .pure (Text.ordered_congr (mem_filterMap_congr fun row => ?_))
  rw [List.mem_append, List.mem_append, hmembers, hdescendants]

theorem owner?_paired (h : Relisted collection grid grid') :
    Run.Paired Eq grid grid' (owner? (collectionOwnerQuery collection))
      (owner? (collectionOwnerQuery collection)) := by
  refine .bind (.of_apply_eq fun log => ?_) ?_
  · rw [Run.queryRows_apply, Run.queryRows_apply,
      h.others log (.query (collectionOwnerQuery collection) 1 .general) nofun nofun]
  · rintro owners _ rfl
    exact .pure rfl

theorem body_paired (hflagged : isCollectionOperation i.parameters = true)
    (h : Relisted (Capture.ofParameters i.parameters .root).logicalPath grid grid') :
    Run.Paired Eq grid grid' (body invoke i) (body invoke i) := by
  unfold body
  dsimp only
  split
  · exact .fail _
  refine .bind (.now h.now) ?_
  rintro now _ rfl
  refine .bind (.mapError (owner?_paired h)) ?_
  rintro owner _ rfl
  refine .bind (.mapError (objectsBeneath_paired h)) ?_
  rintro paths _ rfl
  refine .bind (writeAll_paired h _ _ _) ?_
  rintro failures _ rfl
  exact .bind (.ofExcept _) fun _ _ _ => .pure rfl

theorem mem_builtin : ⟨name, body⟩ ∈ builtinPolicies := by simp [builtinPolicies]

/-- An operation on a collection that is named stamps each object in and below it once, and
the order in which the catalog lists them makes no difference. Without a name it is refused,
and neither is anything asked nor written. -/
theorem invoke_stamps_once (depth : Nat) (grid : Grid) (log : List Entry)
    (parameters configuration : Document) (hflagged : isCollectionOperation parameters = true) :
    let captured := Capture.ofParameters parameters .root
    let run := Registry.builtin.invoke (depth + 1) name parameters configuration
    (captured.logicalPath ≠ "" →
      Stamps grid log captured.logicalPath captured.userName (labelIn configuration)
        (run grid log)) ∧
    (captured.logicalPath = "" →
      run grid log = (.failed (.invalidInput name "requires user_name and logical_path"), log)) ∧
    ∀ grid', Relisted captured.logicalPath grid grid' → run grid' log = run grid log := by
  intro captured run
  let i : Invocation := ⟨name, parameters, Policy.effectiveConfiguration configuration⟩
  have hrun : run = body (Registry.builtin.invoke depth) i :=
    Registry.invoke_builtin mem_builtin depth parameters configuration
  have hlabel : labelIn i.configuration = labelIn configuration := by
    simp only [labelIn, i, Policy.filledField?_effectiveConfiguration]
  rw [hrun, ← hlabel]
  refine ⟨fun hpath => ?_, fun hpath => body_of_unnamed (i := i) hpath log, fun grid' h => ?_⟩
  · exact body_stamps (i := i) rfl hflagged hpath grid log
  · exact (body_paired (i := i) hflagged h).apply_eq log

/-- A catalog that knows the collection `/z/c`, and a store that keeps one object from being
written to. -/
def shelf (members descendants : List Row) (locked : String) : Grid where
  now := 1700000000
  answer
    | _, .query text 0 .general =>
      if text = memberQuery "/z/c" then .ok members
      else if text = descendantQuery "/z/c" then .ok descendants
      else .ok []
    | _, .query _ _ _ => .ok [["olga"]]
    | _, .modifyMetadata _ _ path _ _ =>
      if path = locked then .error (.metadataFailed path "locked") else .ok ()
    | _, _ => .error (.unknownResource "")

theorem relisted_shelf {members members' descendants descendants' : List Row}
    (hmembers : ∀ row, row ∈ members ↔ row ∈ members')
    (hdescendants : ∀ row, row ∈ descendants ↔ row ∈ descendants') (locked : String) :
    Relisted "/z/c" (shelf members descendants locked) (shelf members' descendants' locked) where
  now := rfl
  members _ := .rows hmembers
  descendants _ := .rows hdescendants
  others log call hmember hdescendant := by
    cases call with
    | query text limit kind =>
      cases limit with
      | succ limit => rfl
      | zero =>
        cases kind with
        | specific => rfl
        | general =>
          have htext : text ≠ memberQuery "/z/c" := fun heq => hmember (heq ▸ rfl)
          have htext' : text ≠ descendantQuery "/z/c" := fun heq => hdescendant (heq ▸ rfl)
          simp only [shelf, if_neg htext, if_neg htext']
    | _ => rfl

/-- The parameters of an operation on `/z/c`. -/
def listing : Document := .object [(Key.logicalPath, .text "/z/c"), (Key.userName, .text "alice"),
  (Key.condInput, .object [(collectionKeyword, .text "yes")])]

/-- Two rows name one object, another row is too short for a path, and one of the three writes
is refused. The rows in another order lead to the same run. -/
theorem invoke_stamps_once_shelf :
    let grid := shelf [["/z/c", "b"], ["/z/c", "a"], ["/z/c"]] [["/z/c/d", "e"], ["/z/c", "a"]]
      "/z/c/b"
    let grid' := shelf [["/z/c"], ["/z/c", "a"], ["/z/c", "b"], ["/z/c", "a"]]
      [["/z/c", "a"], ["/z/c/d", "e"]] "/z/c/b"
    let run := Registry.builtin.invoke 1 name listing .null
    isCollectionOperation listing = true ∧
      Stamps grid [] "/z/c" "alice" defaultAttribute (run grid []) ∧
      Relisted "/z/c" grid grid' ∧ run grid' [] = run grid [] ∧
      run grid [] =
        (.failed (.aggregated [failureOf name "/z/c/b" (.metadataFailed "/z/c/b" "locked")]),
          questions "/z/c" ++ ["/z/c/a", "/z/c/b", "/z/c/d/e"].map fun path =>
            .call (writeCall ⟨defaultAttribute, "1700000000", some "olga"⟩ path)) := by
  intro grid grid' run
  have hflagged : isCollectionOperation listing = true := by decide
  have hrelisted : Relisted "/z/c" grid grid' := by
    refine relisted_shelf ?_ ?_ "/z/c/b"
    · intro row
      simp only [List.mem_cons, List.not_mem_nil]
      tauto
    · intro row
      simp only [List.mem_cons, List.not_mem_nil]
      tauto
  obtain ⟨hstamps, -, hsame⟩ := invoke_stamps_once 0 grid [] listing .null hflagged
  exact ⟨hflagged, hstamps (by decide), hrelisted, hsame grid' hrelisted, rfl⟩

/-- The parameters of an operation on a collection that they do not name. -/
def nameless : Document := .object [(Key.userName, .text "alice"),
  (Key.condInput, .object [(collectionKeyword, .text "yes")])]

/-- Where no collection is named the invocation fails though no question and no write is
refused, as nothing is asked. -/
theorem invoke_nameless :
    let captured := Capture.ofParameters nameless .root
    let run := Registry.builtin.invoke 1 name nameless .null (shelf [] [] "/z/c/b") []
    isCollectionOperation nameless = true ∧
      run = (.failed (.invalidInput name "requires user_name and logical_path"), []) ∧
      ¬ Stamps (shelf [] [] "/z/c/b") [] captured.logicalPath captured.userName (labelIn .null)
        run := by
  intro captured run
  have hrun : run = (.failed (.invalidInput name "requires user_name and logical_path"), []) := rfl
  refine ⟨by decide, hrun, ?_⟩
  intro hstamps
  obtain ⟨rest, hrest⟩ := hstamps.asks_owner
  rw [hrun] at hrest
  cases hrest

end GridPolicy.AccessTime
