import LicenseHeader.FileTree.Basic
import LicenseHeader.Proofs.Text.Basic
import Mathlib.Data.List.Basic

/-!
# Writing a file

A path leads to a place through directories and links; the contents of files play no part in it.
What is at each place, up to the contents, is `Node.kindAt?`.

* `FileTree.walk_cons`: following a path depends on the kinds only, and on those of the places that
  are looked at (`FileTree.resolveWith_of_lookups`), so that paths lead to the same places in trees of
  the same shape (`FileTree.resolveWith_of_sameShape`);
* `FileTree.Leads` and `FileTree.Arrives`: the ways that paths take, up to the next link and over
  links, with `FileTree.resolveWith_eq_ok_iff`;
* `FileTree.write_cases`: what a write does to the kinds of all places;
* `FileTree.readBody_write`: what was written to a path is read from it;
* `FileTree.sameShape_write`: a write to a file that is there keeps the shape of the tree.
-/

namespace LicenseHeader

namespace Node

/-- What a node is, the contents of files and directories left out. -/
inductive Kind where
  | file
  | link (target : Path)
  | directory

/-- The kind of a node. -/
def kind : Node → Kind
  | file _ => .file
  | link target => .link target
  | directory _ => .directory

/-- The kind of the node at a place. -/
def kindAt? (place : Place) (n : Node) : Option Kind := (n.at? place).map kind

variable {n : Node} {place : Place} {body : FileBody}

theorem kind_eq_directory_iff : n.kind = .directory ↔ ∃ entries, n = directory entries := by
  cases n <;> simp [kind]

theorem at?_append (front back : Place) (n : Node) :
    n.at? (front ++ back) = (n.at? front).bind (at? back) := by
  induction front generalizing n with
  | nil => rfl
  | cons name front ih =>
    cases n with
    | file _ => rfl
    | link _ => rfl
    | directory entries =>
      show (Keyed.get? entries name).bind (at? (front ++ back))
        = ((Keyed.get? entries name).bind (at? front)).bind (at? back)
      cases Keyed.get? entries name with
      | none => rfl
      | some sub => exact ih sub

/-- What is above a node is a directory. -/
theorem kindAt?_of_concat {name : Text} {k : Kind} (h : n.kindAt? (place ++ [name]) = some k) :
    n.kindAt? place = some .directory := by
  obtain ⟨m, hm, -⟩ := Option.map_eq_some_iff.mp h
  rw [at?_append] at hm
  obtain ⟨parent, hparent, hchild⟩ := Option.bind_eq_some_iff.mp hm
  rw [kindAt?, hparent]
  cases parent with
  | file _ => exact absurd hchild (by simp [at?])
  | link _ => exact absurd hchild (by simp [at?])
  | directory _ => rfl

/-- The entry of a directory. -/
theorem at?_concat {entries : List (Text × Node)} (h : n.at? place = some (directory entries))
    (name : Text) : n.at? (place ++ [name]) = Keyed.get? entries name := by
  rw [at?_append, h]
  show (Keyed.get? entries name).bind some = _
  cases Keyed.get? entries name <;> rfl

theorem at?_put_self (new : Node) (place : Place) (n : Node) :
    (put new place n).at? place = some new := by
  induction place generalizing n with
  | nil => rfl
  | cons name rest ih =>
    cases n with
    | directory entries =>
      show (Keyed.get? (Keyed.put entries name _) name).bind (at? rest) = some new
      rw [Keyed.get?_put, if_pos rfl]
      exact ih _
    | file _ =>
      show (Keyed.get? [(name, _)] name).bind (at? rest) = some new
      rw [Keyed.get?, if_pos rfl]
      exact ih _
    | link _ =>
      show (Keyed.get? [(name, _)] name).bind (at? rest) = some new
      rw [Keyed.get?, if_pos rfl]
      exact ih _

/-- Below a file there is nothing, nor below a link. -/
theorem at?_of_not_directory (h : n.kind ≠ .directory) (hplace : place ≠ []) :
    n.at? place = none := by
  cases place with
  | nil => exact absurd rfl hplace
  | cons name rest =>
    cases n with
    | directory entries => exact absurd rfl h
    | file _ => rfl
    | link _ => rfl

theorem kindAt?_cons (entries : List (Text × Node)) (name : Text) (rest : Place) :
    (directory entries).kindAt? (name :: rest) = (Keyed.get? entries name).bind (kindAt? rest) := by
  show ((Keyed.get? entries name).bind (at? rest)).map kind = _
  cases Keyed.get? entries name <;> rfl

/-- The entry of a directory is exchanged. -/
theorem at?_put_entry (entries : List (Text × Node)) (name : Text) (sub : Node) (m : Text)
    (rest : Place) :
    (directory (Keyed.put entries name sub)).at? (m :: rest)
      = if m = name then sub.at? rest else (directory entries).at? (m :: rest) := by
  show (Keyed.get? (Keyed.put entries name sub) m).bind (at? rest) = _
  rw [Keyed.get?_put]
  split
  all_goals rfl

/-- A file is put at a place in a directory, where no directory is: what is seen of all other places
stays the same, if of directories only that they are there is seen.  Induction on the place, with the
directory that it is in found from the end. -/
theorem map_at?_put_file {γ : Type} {view : Node → γ}
    (hview : ∀ entries entries', view (directory entries) = view (directory entries'))
    (hparent : ∀ front name, place = front ++ [name] → n.kindAt? front = some .directory)
    (hplace : n.kindAt? place ≠ some .directory) (body : FileBody) (other : Place) :
    ((put (file body) place n).at? other).map view
      = if other = place then some (view (file body)) else (n.at? other).map view := by
  induction place generalizing n other with
  | nil =>
    rw [put]
    by_cases hother : other = []
    · rw [if_pos hother, hother]
      rfl
    · rw [if_neg hother, at?_of_not_directory (by simp [kind]) hother,
        at?_of_not_directory (fun h => hplace (congrArg some h)) hother]
  | cons name rest ih =>
    obtain ⟨entries, rfl⟩ : ∃ entries, n = directory entries := by
      rcases List.eq_nil_or_concat' rest with rfl | ⟨front, last, rfl⟩
      · exact kind_eq_directory_iff.mp (Option.some.inj (hparent [] name rfl))
      · have hfront := hparent (name :: front) last (by simp)
        cases n with
        | directory entries => exact ⟨entries, rfl⟩
        | file _ => exact absurd hfront (by simp [kindAt?, at?])
        | link _ => exact absurd hfront (by simp [kindAt?, at?])
    cases other with
    | nil =>
      rw [if_neg (by simp)]
      exact congrArg some (hview _ _)
    | cons m other =>
      rw [put, at?_put_entry]
      by_cases hm : m = name
      · subst hm
        rw [if_pos rfl]
        have heq : (m :: other = m :: rest) ↔ other = rest := by simp
        simp only [heq]
        rw [kindAt?_cons] at hplace
        rcases List.eq_nil_or_concat' rest with rfl | ⟨front, last, hrest⟩
        · rw [put]
          by_cases ho : other = []
          · rw [if_pos ho, ho]
            rfl
          · rw [if_neg ho, at?_of_not_directory (by simp [kind]) ho]
            show none = ((Keyed.get? entries m).bind (at? other)).map view
            cases hget : Keyed.get? entries m with
            | none => rfl
            | some sub =>
              rw [hget] at hplace
              rw [Option.bind_some, at?_of_not_directory (fun h => hplace (congrArg some h)) ho]
              rfl
        · have hfront := hparent (m :: front) last (by simp [hrest])
          rw [kindAt?_cons] at hfront
          obtain ⟨sub, hget, -⟩ := Option.bind_eq_some_iff.mp hfront
          rw [hget] at hplace
          have hentry : (directory entries).at? (m :: other) = sub.at? other := by
            show (Keyed.get? entries m).bind (at? other) = _
            rw [hget, Option.bind_some]
          rw [hget, Option.getD_some, hentry]
          refine ih ?_ hplace other
          intro front' name' hrest'
          have h := hparent (m :: front') name' (by simp [hrest'])
          rwa [kindAt?_cons, hget] at h
      · rw [if_neg hm, if_neg (by simp [hm])]

/-- All other places keep their kind. -/
theorem kindAt?_put_file
    (hparent : ∀ front name, place = front ++ [name] → n.kindAt? front = some .directory)
    (hplace : n.kindAt? place ≠ some .directory) (body : FileBody) (other : Place) :
    (put (file body) place n).kindAt? other
      = if other = place then some .file else n.kindAt? other :=
  map_at?_put_file (fun _ _ => rfl) hparent hplace body other

end Node

namespace FileTree

variable {tree tree' : FileTree} {p : Path} {t : Text} {place : Place}

/-! ### Paths lead through directories and links -/

/-- One step on a path, said with kinds only. -/
theorem walk_cons (tree : FileTree) (create : Bool) (here : Place) (name : Text) (rest : List Text) :
    tree.walk create here (name :: rest) =
      match tree.top.kindAt? here with
      | none => .failed .notFound
      | some .directory =>
        if name = [] ∨ name = ['.'] then walk tree create here rest
        else if name = ['.', '.'] then walk tree create here.dropLast rest
        else if create && !rest.isEmpty && rest.all List.isEmpty then .failed .isDirectory
        else
          match tree.top.kindAt? (here ++ [name]) with
          | none => if create && rest.isEmpty then .arrived (here ++ [name]) else .failed .notFound
          | some (.link target) => .atLink here target rest
          | some _ => walk tree create (here ++ [name]) rest
      | some _ => .failed .notDirectory := by
  rw [walk, Node.kindAt?]
  cases hhere : tree.top.at? here with
  | none => rfl
  | some n =>
    cases n with
    | file _ => rfl
    | link _ => rfl
    | directory entries =>
      rw [Node.kindAt?, Node.at?_concat hhere]
      dsimp only [Option.map_some, Node.kind]
      cases Keyed.get? entries name with
      | none => rfl
      | some m => cases m <;> rfl

/-- The places that a walk looks at, as far as it goes. -/
def lookups (tree : FileTree) (create : Bool) : Place → List Text → List Place
  | _, [] => []
  | here, name :: rest =>
    here ::
      match tree.top.kindAt? here with
      | some .directory =>
        if name = [] ∨ name = ['.'] then lookups tree create here rest
        else if name = ['.', '.'] then lookups tree create here.dropLast rest
        else if create && !rest.isEmpty && rest.all List.isEmpty then []
        else
          (here ++ [name]) ::
            match tree.top.kindAt? (here ++ [name]) with
            | none => []
            | some (.link _) => []
            | some _ => lookups tree create (here ++ [name]) rest
      | _ => []

/-- The places that are looked at when names are followed through links. -/
def lookupsThrough (tree : FileTree) (create : Bool) : Nat → Place → List Text → List Place
  | 0, _, _ => []
  | fuel + 1, here, names =>
    tree.lookups create here names ++
      match tree.walk create here names with
      | .atLink directory target rest =>
        lookupsThrough tree create fuel (start directory target) (splitAt '/' target.text ++ rest)
      | _ => []

/-- The places that are looked at on the way that a path takes. -/
def lookupsOf (tree : FileTree) (create : Bool) (p : Path) : List Place :=
  tree.lookupsThrough create (maxLinks + 1) (start tree.workingDir p) (splitAt '/' p.text)

theorem walk_of_lookups {a b : FileTree} (create : Bool) (here : Place) (names : List Text)
    (h : ∀ place ∈ a.lookups create here names, b.top.kindAt? place = a.top.kindAt? place) :
    b.walk create here names = a.walk create here names := by
  induction names generalizing here with
  | nil => rfl
  | cons name rest ih =>
    rw [walk_cons, walk_cons]
    rw [lookups] at h
    rw [h here List.mem_cons_self]
    have hrest := fun place hplace => h place (List.mem_cons_of_mem here hplace)
    cases hhere : a.top.kindAt? here with
    | none => rfl
    | some k =>
      cases k with
      | file => rfl
      | link target => rfl
      | directory =>
        rw [hhere] at hrest
        dsimp only at hrest ⊢
        by_cases hstay : name = [] ∨ name = ['.']
        · rw [if_pos hstay] at hrest ⊢
          rw [if_pos hstay]
          exact ih here hrest
        · rw [if_neg hstay] at hrest ⊢
          rw [if_neg hstay]
          by_cases hup : name = ['.', '.']
          · rw [if_pos hup] at hrest ⊢
            rw [if_pos hup]
            exact ih here.dropLast hrest
          · rw [if_neg hup] at hrest ⊢
            rw [if_neg hup]
            split
            · rfl
            · rename_i hfits
              rw [if_neg hfits] at hrest
              rw [hrest _ List.mem_cons_self]
              have hlast := fun place hplace => hrest place (List.mem_cons_of_mem _ hplace)
              cases hentry : a.top.kindAt? (here ++ [name]) with
              | none => rfl
              | some k =>
                rw [hentry] at hlast
                cases k with
                | link target => rfl
                | file => exact ih _ hlast
                | directory => exact ih _ hlast

theorem follow_of_lookups {a b : FileTree} (create : Bool) (fuel : Nat) (here : Place)
    (names : List Text)
    (h : ∀ place ∈ a.lookupsThrough create fuel here names,
      b.top.kindAt? place = a.top.kindAt? place) :
    b.follow create fuel here names = a.follow create fuel here names := by
  induction fuel generalizing here names with
  | zero => rfl
  | succ fuel ih =>
    rw [lookupsThrough] at h
    rw [follow, follow, walk_of_lookups create here names fun place hplace =>
      h place (List.mem_append_left _ hplace)]
    have hrest := fun place hplace => h place (List.mem_append_right _ hplace)
    cases hwalk : a.walk create here names with
    | arrived place => rfl
    | failed cause => rfl
    | atLink directory target rest =>
      rw [hwalk] at hrest
      exact ih _ _ hrest

/-- **Where a path leads to depends only on the places that are looked at**, and on their kinds. -/
theorem resolveWith_of_lookups {a b : FileTree} (hworkingDir : b.workingDir = a.workingDir)
    (create : Bool) (p : Path)
    (h : ∀ place ∈ a.lookupsOf create p, b.top.kindAt? place = a.top.kindAt? place) :
    b.resolveWith create p = a.resolveWith create p := by
  rw [resolveWith, resolveWith, hworkingDir, follow_of_lookups create _ _ _ h]

/-- Two trees with nodes of the same kinds at the same places. -/
structure SameShape (a b : FileTree) : Prop where
  workingDir : a.workingDir = b.workingDir
  kindAt : ∀ place, a.top.kindAt? place = b.top.kindAt? place

section SameShape

variable {a b : FileTree} (h : a.SameShape b)
include h

theorem resolveWith_of_sameShape (create : Bool) (p : Path) :
    a.resolveWith create p = b.resolveWith create p :=
  resolveWith_of_lookups h.workingDir create p fun place _ => h.kindAt place

end SameShape

/-! ### The ways that paths take -/

/-- A name of an entry, and not one for the directory itself or the one above it. -/
def IsEntryName (name : Text) : Prop := ¬(name = [] ∨ name = ['.']) ∧ name ≠ ['.', '.']

/-- After an entry there are no names to which only a directory can lead. -/
def Fits (create : Bool) (rest : List Text) : Prop :=
  (create && !rest.isEmpty && rest.all List.isEmpty) = false

/-- How a walk that does not fail goes on from a place: it stays, goes up or down, or ends. -/
inductive Leads (tree : FileTree) (create : Bool) : Place → List Text → Walk → Prop where
  | done (here : Place) : Leads tree create here [] (.arrived here)
  | stay {here : Place} {name : Text} {rest : List Text} {w : Walk} :
      tree.top.kindAt? here = some .directory → name = [] ∨ name = ['.'] →
      Leads tree create here rest w → Leads tree create here (name :: rest) w
  | up {here : Place} {rest : List Text} {w : Walk} :
      tree.top.kindAt? here = some .directory →
      Leads tree create here.dropLast rest w → Leads tree create here (['.', '.'] :: rest) w
  | down {here : Place} {name : Text} {rest : List Text} {k : Node.Kind} {w : Walk} :
      tree.top.kindAt? here = some .directory → IsEntryName name → Fits create rest →
      tree.top.kindAt? (here ++ [name]) = some k → (∀ target, k ≠ .link target) →
      Leads tree create (here ++ [name]) rest w → Leads tree create here (name :: rest) w
  | link {here : Place} {name : Text} {rest : List Text} {target : Path} :
      tree.top.kindAt? here = some .directory → IsEntryName name → Fits create rest →
      tree.top.kindAt? (here ++ [name]) = some (.link target) →
      Leads tree create here (name :: rest) (.atLink here target rest)
  | new {here : Place} {name : Text} :
      create = true → tree.top.kindAt? here = some .directory → IsEntryName name →
      tree.top.kindAt? (here ++ [name]) = none →
      Leads tree create here [name] (.arrived (here ++ [name]))

variable {create : Bool} {here : Place} {name : Text} {names rest : List Text} {w : Walk}

theorem walk_stay (hhere : tree.top.kindAt? here = some .directory)
    (hname : name = [] ∨ name = ['.']) :
    tree.walk create here (name :: rest) = tree.walk create here rest := by
  rw [walk_cons, hhere]
  exact if_pos hname

theorem walk_up (hhere : tree.top.kindAt? here = some .directory) :
    tree.walk create here (['.', '.'] :: rest) = tree.walk create here.dropLast rest := by
  rw [walk_cons, hhere]
  rfl

/-- The step to an entry, whatever it is. -/
theorem walk_entry (hhere : tree.top.kindAt? here = some .directory) (hname : IsEntryName name) :
    tree.walk create here (name :: rest) =
      if create && !rest.isEmpty && rest.all List.isEmpty then .failed .isDirectory
      else
        match tree.top.kindAt? (here ++ [name]) with
        | none => if create && rest.isEmpty then .arrived (here ++ [name]) else .failed .notFound
        | some (.link target) => .atLink here target rest
        | some _ => walk tree create (here ++ [name]) rest := by
  rw [walk_cons, hhere]
  dsimp only
  rw [if_neg hname.1, if_neg hname.2]

theorem walk_down {k : Node.Kind} (hhere : tree.top.kindAt? here = some .directory)
    (hname : IsEntryName name) (hfits : Fits create rest)
    (hk : tree.top.kindAt? (here ++ [name]) = some k) (hlink : ∀ target, k ≠ .link target) :
    tree.walk create here (name :: rest) = tree.walk create (here ++ [name]) rest := by
  rw [walk_entry hhere hname, if_neg (Bool.eq_false_iff.mp hfits), hk]
  cases k with
  | file => rfl
  | directory => rfl
  | link target => exact absurd rfl (hlink target)

theorem walk_link {target : Path} (hhere : tree.top.kindAt? here = some .directory)
    (hname : IsEntryName name) (hfits : Fits create rest)
    (hk : tree.top.kindAt? (here ++ [name]) = some (.link target)) :
    tree.walk create here (name :: rest) = .atLink here target rest := by
  rw [walk_entry hhere hname, if_neg (Bool.eq_false_iff.mp hfits), hk]

theorem walk_of_leads (h : tree.Leads create here names w) : tree.walk create here names = w := by
  induction h with
  | done here => rfl
  | stay hhere hname _ ih => rw [walk_stay hhere hname, ih]
  | up hhere _ ih => rw [walk_up hhere, ih]
  | down hhere hname hfits hk hlink _ ih => rw [walk_down hhere hname hfits hk hlink, ih]
  | link hhere hname hfits hk => exact walk_link hhere hname hfits hk
  | new hcreate hhere hname hk =>
    rw [walk_entry hhere hname, hk, hcreate]
    rfl

/-- The walk to an entry fails or takes such a way, if the walk on from the entry does. -/
theorem leads_walk_entry (hhere : tree.top.kindAt? here = some .directory) (hname : IsEntryName name)
    (hrest : (∃ cause, tree.walk create (here ++ [name]) rest = .failed cause) ∨
      tree.Leads create (here ++ [name]) rest (tree.walk create (here ++ [name]) rest)) :
    (∃ cause, tree.walk create here (name :: rest) = .failed cause) ∨
      tree.Leads create here (name :: rest) (tree.walk create here (name :: rest)) := by
  rw [walk_entry hhere hname]
  split
  · exact Or.inl ⟨_, rfl⟩
  · rename_i hunfit
    have hfits : Fits create rest := Bool.eq_false_iff.mpr hunfit
    split
    · rename_i hnone
      split
      · rename_i hnew
        rw [Bool.and_eq_true, List.isEmpty_iff] at hnew
        obtain ⟨hcreate, rfl⟩ := hnew
        exact Or.inr (.new hcreate hhere hname hnone)
      · exact Or.inl ⟨_, rfl⟩
    · rename_i hlink
      exact Or.inr (.link hhere hname hfits hlink)
    · rename_i k hnolink hk
      exact hrest.imp_right (.down hhere hname hfits hk fun target h => hnolink target h)

/-- Every walk fails or takes such a way. -/
theorem leads_walk (tree : FileTree) (create : Bool) (here : Place) (names : List Text) :
    (∃ cause, tree.walk create here names = .failed cause) ∨
      tree.Leads create here names (tree.walk create here names) := by
  induction names generalizing here with
  | nil => exact Or.inr (.done here)
  | cons name rest ih =>
    by_cases hhere : tree.top.kindAt? here = some .directory
    · by_cases hstay : name = [] ∨ name = ['.']
      · rw [walk_stay hhere hstay]
        exact (ih here).imp_right (.stay hhere hstay)
      · by_cases hup : name = ['.', '.']
        · subst hup
          rw [walk_up hhere]
          exact (ih here.dropLast).imp_right (.up hhere)
        · exact leads_walk_entry hhere ⟨hstay, hup⟩ (ih (here ++ [name]))
    · left
      rw [walk_cons]
      split
      · exact ⟨_, rfl⟩
      · rename_i hdirectory
        exact absurd hdirectory hhere
      · exact ⟨_, rfl⟩

/-- A path to something that is there leads to the same place when a file is to be written, unless
its end asks for a directory. -/
theorem walk_create_of_leads (h : tree.Leads false here names w) :
    tree.walk true here names = w ∨ tree.walk true here names = .failed .isDirectory := by
  induction h with
  | done here => exact Or.inl rfl
  | stay hhere hname _ ih => rwa [walk_stay hhere hname]
  | up hhere _ ih => rwa [walk_up hhere]
  | @down _ _ rest _ _ hhere hname _ hk hlink _ ih =>
    by_cases hfits : Fits true rest
    · rwa [walk_down hhere hname hfits hk hlink]
    · exact Or.inr (by rw [walk_entry hhere hname, if_pos (Bool.not_eq_false _ ▸ hfits)])
  | @link _ _ rest _ hhere hname _ hk =>
    by_cases hfits : Fits true rest
    · exact Or.inl (walk_link hhere hname hfits hk)
    · exact Or.inr (by rw [walk_entry hhere hname, if_pos (Bool.not_eq_false _ ▸ hfits)])
  | new hcreate => cases hcreate

/-- The way to a place, over at most `fuel` links less one. -/
inductive Arrives (tree : FileTree) (create : Bool) : Nat → Place → List Text → Place → Prop where
  | stop {fuel : Nat} {here : Place} {names : List Text} {place : Place} :
      tree.Leads create here names (.arrived place) →
      Arrives tree create (fuel + 1) here names place
  | through {fuel : Nat} {here directory : Place} {names rest : List Text} {target : Path}
      {place : Place} : tree.Leads create here names (.atLink directory target rest) →
      Arrives tree create fuel (start directory target) (splitAt '/' target.text ++ rest) place →
      Arrives tree create (fuel + 1) here names place

theorem follow_eq_ok_iff {fuel : Nat} :
    tree.follow create fuel here names = .ok place ↔ tree.Arrives create fuel here names place := by
  constructor
  · intro h
    induction fuel generalizing here names with
    | zero => cases h
    | succ fuel ih =>
      rw [follow] at h
      rcases leads_walk tree create here names with ⟨cause, hfailed⟩ | hleads
      · rw [hfailed] at h
        cases h
      · split at h
        · rename_i hwalk
          cases h
          exact .stop (hwalk ▸ hleads)
        · cases h
        · rename_i hwalk
          exact .through (hwalk ▸ hleads) (ih h)
  · intro h
    induction h with
    | stop hleads => rw [follow, walk_of_leads hleads]
    | through hleads _ ih => rwa [follow, walk_of_leads hleads]

theorem resolveWith_eq_ok_iff :
    tree.resolveWith create p = .ok place ↔ p.text.isEmpty = false ∧
      tree.Arrives create (maxLinks + 1) (start tree.workingDir p) (splitAt '/' p.text) place := by
  rw [resolveWith, ← follow_eq_ok_iff]
  cases p.text.isEmpty <;> simp

/-- A path leads to no other place when a file is to be written. -/
theorem eq_of_arrives {fuel : Nat} {target : Place} (h : tree.Arrives false fuel here names place)
    (hcreate : tree.follow true fuel here names = .ok target) : target = place := by
  induction h with
  | stop hleads =>
    rw [follow] at hcreate
    rcases walk_create_of_leads hleads with hwalk | hwalk
    · rw [hwalk] at hcreate
      cases hcreate
      rfl
    · rw [hwalk] at hcreate
      cases hcreate
  | through hleads _ ih =>
    rw [follow] at hcreate
    rcases walk_create_of_leads hleads with hwalk | hwalk
    · rw [hwalk] at hcreate
      exact ih hcreate
    · rw [hwalk] at hcreate
      cases hcreate

/-! ### What a write does -/

/-- A place that a path can lead to, whether or not a node is there. -/
structure Reached (tree : FileTree) (place : Place) : Prop where
  noLink : ∀ target, tree.top.kindAt? place ≠ some (.link target)
  parent : ∀ front name, place = front ++ [name] → tree.top.kindAt? front = some .directory

theorem Reached.ofKind {k : Node.Kind} (h : tree.top.kindAt? place = some k)
    (hk : ∀ target, k ≠ .link target) : tree.Reached place where
  noLink target hlink := hk target (Option.some.inj (h.symm.trans hlink))
  parent _ _ hplace := Node.kindAt?_of_concat (hplace ▸ h)

theorem reached_dropLast (h : tree.top.kindAt? place = some .directory) :
    tree.Reached place.dropLast := by
  rcases List.eq_nil_or_concat' place with rfl | ⟨front, name, rfl⟩
  · exact Reached.ofKind h (by simp)
  · rw [List.dropLast_concat]
    exact Reached.ofKind (Node.kindAt?_of_concat h) (by simp)

/-- The place at which a way ends.  With no names left it is the place that the last name led to. -/
theorem reached_of_leads (hhere : names = [] → tree.Reached here)
    (h : tree.Leads create here names (.arrived place)) : tree.Reached place := by
  generalize hw : Walk.arrived place = w at h
  induction h with
  | done here =>
    cases hw
    exact hhere rfl
  | stay hdir _ _ ih => exact ih (fun _ => .ofKind hdir (by simp)) hw
  | up hdir _ ih => exact ih (fun _ => reached_dropLast hdir) hw
  | down _ _ _ hk hlink _ ih => exact ih (fun _ => .ofKind hk hlink) hw
  | link => cases hw
  | new _ hdir _ hk =>
    cases hw
    refine ⟨by simp [hk], fun front last hfront => ?_⟩
    obtain ⟨rfl, -⟩ := List.append_inj' hfront rfl
    exact hdir

theorem reached_of_arrives {fuel : Nat} (hnames : names ≠ [])
    (h : tree.Arrives create fuel here names place) : tree.Reached place := by
  induction h with
  | stop hleads => exact reached_of_leads (fun hnil => absurd hnil hnames) hleads
  | through _ _ ih => exact ih (by simp [splitAt_ne_nil])

theorem write_eq (tree : FileTree) (p : Path) (t : Text) :
    tree.write p t =
      match tree.resolveWith true p with
      | .error cause => .error cause
      | .ok place =>
        match tree.top.kindAt? place with
        | some .directory => .error .isDirectory
        | _ => .ok { tree with top := Node.put (.file (.text t)) place tree.top } := by
  rw [write]
  cases tree.resolveWith true p with
  | error cause => rfl
  | ok place =>
    unfold Node.kindAt?
    dsimp only
    cases tree.top.at? place with
    | none => rfl
    | some n => cases n <;> rfl

/-- **What a write does.**  It puts a file at the place that the path leads to, which is no directory
and no link; every other place keeps its kind. -/
theorem write_cases (h : tree.write p t = .ok tree') :
    ∃ place, tree.resolveWith true p = .ok place ∧
      (∀ k, tree.top.kindAt? place = some k → k = .file) ∧
      tree' = { tree with top := Node.put (.file (.text t)) place tree.top } ∧
      ∀ other, tree'.top.kindAt? other
        = if other = place then some .file else tree.top.kindAt? other := by
  rw [write_eq] at h
  split at h
  · cases h
  · rename_i place hresolve
    have hreached := reached_of_arrives (splitAt_ne_nil _ _) (resolveWith_eq_ok_iff.mp hresolve).2
    split at h
    · cases h
    · rename_i hdirectory
      cases h
      refine ⟨place, hresolve, ?_, rfl,
        Node.kindAt?_put_file hreached.parent (fun hk => hdirectory hk) _⟩
      intro k hk
      cases k with
      | file => rfl
      | link target => exact absurd hk (hreached.noLink target)
      | directory => exact absurd hk hdirectory

/-- A path can be written to in both of two trees of the same shape or in none. -/
theorem write_of_sameShape {a b : FileTree} (h : a.SameShape b) (p : Path) (t u : Text) :
    (∃ cause, a.write p t = .error cause ∧ b.write p u = .error cause) ∨
    (∃ a' b', a.write p t = .ok a' ∧ b.write p u = .ok b') := by
  rw [write_eq, write_eq, resolveWith_of_sameShape h]
  cases b.resolveWith true p with
  | error cause => exact Or.inl ⟨cause, rfl, rfl⟩
  | ok place =>
    dsimp only
    rw [h.kindAt]
    split
    · exact Or.inl ⟨_, rfl, rfl⟩
    · exact Or.inr ⟨_, _, rfl, rfl⟩

/-! ### Reading what was written -/

section Written

variable (hplace : ∀ k, tree.top.kindAt? place = some k → k = .file)
  (hkinds : ∀ other, tree'.top.kindAt? other
    = if other = place then some .file else tree.top.kindAt? other)
include hplace hkinds

/-- A node that is no file is at another place, and still there. -/
theorem kindAt?_written {other : Place} {k : Node.Kind} (hk : tree.top.kindAt? other = some k)
    (hfile : k ≠ .file) : tree'.top.kindAt? other = some k := by
  rw [hkinds, if_neg ?_, hk]
  rintro rfl
  exact hfile (hplace k hk)

/-- A way to a file that is to be written is a way to the file once it is there. -/
theorem leads_written (h : tree.Leads true here names w) (hw : ∀ q, w = .arrived q → q = place) :
    tree'.Leads false here names w := by
  have hdir : ∀ {q}, tree.top.kindAt? q = some .directory → tree'.top.kindAt? q = some .directory :=
    fun hq => kindAt?_written hplace hkinds hq (by simp)
  induction h with
  | done here => exact .done here
  | stay hhere hname _ ih => exact .stay (hdir hhere) hname (ih hw)
  | up hhere _ ih => exact .up (hdir hhere) (ih hw)
  | link hhere hname _ hk =>
    exact .link (hdir hhere) hname rfl (kindAt?_written hplace hkinds hk (by simp))
  | @down _ _ _ k _ hhere hname _ hk hlink _ ih =>
    cases hfile : k with
    | link target => exact absurd hfile (hlink target)
    | directory => exact .down (hdir hhere) hname rfl (hdir (hfile ▸ hk)) (by simp) (ih hw)
    | file =>
      refine .down (k := .file) (hdir hhere) hname rfl ?_ (by simp) (ih hw)
      rw [hkinds, hk, hfile, ite_self]
  | new _ hhere hname _ =>
    refine .down (k := .file) (hdir hhere) hname rfl ?_ (by simp) (.done _)
    rw [hkinds, if_pos (hw _ rfl)]

theorem arrives_written {fuel : Nat} (h : tree.Arrives true fuel here names place) :
    tree'.Arrives false fuel here names place := by
  induction h with
  | stop hleads => exact .stop (leads_written hplace hkinds hleads fun q hq => by cases hq; rfl)
  | through hleads _ ih =>
    exact .through (leads_written hplace hkinds hleads (by simp)) (ih hplace hkinds)

end Written

/-- **What was written is read.** -/
theorem readBody_write (h : tree.write p t = .ok tree') : tree'.readBody p = .ok (.text t) := by
  obtain ⟨place, hresolve, hplace, rfl, hkinds⟩ := write_cases h
  obtain ⟨hpath, harrives⟩ := resolveWith_eq_ok_iff.mp hresolve
  have hfound : ({ tree with top := Node.put (.file (.text t)) place tree.top } : FileTree).resolve p
      = .ok place :=
    resolveWith_eq_ok_iff.mpr ⟨hpath, arrives_written hplace hkinds harrives⟩
  rw [readBody, node, hfound]
  dsimp only
  rw [Node.at?_put_self]

theorem readText_write (h : tree.write p t = .ok tree') : tree'.readText p = .ok t := by
  rw [readText, readBody_write h]

/-- The place of a file that is read. -/
theorem exists_of_readBody {body : FileBody} (h : tree.readBody p = .ok body) :
    ∃ place, tree.resolve p = .ok place ∧ tree.top.kindAt? place = some .file := by
  rw [readBody, node] at h
  cases hresolve : tree.resolve p with
  | error cause =>
    rw [hresolve] at h
    cases h
  | ok place =>
    refine ⟨place, rfl, ?_⟩
    rw [hresolve] at h
    dsimp only at h
    unfold Node.kindAt?
    cases hnode : tree.top.at? place with
    | none =>
      rw [hnode] at h
      cases h
    | some n =>
      rw [hnode] at h
      cases n with
      | file _ => rfl
      | link _ => cases h
      | directory _ => cases h

/-- **A write to a file that is there keeps the shape of the tree.** -/
theorem sameShape_write {body : FileBody} (hread : tree.readBody p = .ok body)
    (hwrite : tree.write p t = .ok tree') : tree.SameShape tree' := by
  obtain ⟨place, hresolve, hfile⟩ := exists_of_readBody hread
  obtain ⟨target, htarget, -, rfl, hkinds⟩ := write_cases hwrite
  have hsame : target = place :=
    eq_of_arrives (resolveWith_eq_ok_iff.mp hresolve).2
      (follow_eq_ok_iff.mpr (resolveWith_eq_ok_iff.mp htarget).2)
  refine ⟨rfl, fun other => ?_⟩
  rw [hkinds]
  split
  · rename_i hother
    rw [hother, hsame, hfile]
  · rfl

end FileTree

end LicenseHeader
