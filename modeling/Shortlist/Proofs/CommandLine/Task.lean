import Mathlib.Tactic.Lemma
import Shortlist.CommandLine.Run

/-!
# What tasks come to

`Task.exec` is how a task ends and the scene that it leaves behind.  The laws below say this for the
steps that tasks are made of.

The options of a command are only looked at: `Task.request` leaves the scene as it is, and the
request that it comes back with is the one of the arguments (`Task.exec_request_ok`).

Looking is a property of its own (`Task.IsLook`), closed under sequencing.  A task that only looks
leaves the scene alone whichever way it ends, so the checks of a command, of which there are many,
are gone through once, by their shape, and not once for each ending.
-/

namespace Shortlist

/-- An ending over something else than the work of a batch. -/
def Ending.IsEarly : Ending → Prop
  | .broken (.work _) | .failed _ => False
  | .unusable | .broken _ => True

namespace Task

variable {α β ε : Type} {scene scene' : Scene} {ending : Ending}

/-- How a task ends and the scene that it leaves behind. -/
def exec (task : Task α) (scene : Scene) : Except Ending α × Scene := task.run.run scene

@[simp]
lemma exec_pure (a : α) (scene : Scene) : exec (pure a) scene = (.ok a, scene) := rfl

@[simp]
lemma exec_tree (scene : Scene) : exec tree scene = (.ok scene.tree, scene) := rfl

@[simp]
lemma exec_modify (f : Scene → Scene) (scene : Scene) :
    exec (modify f) scene = (.ok (), f scene) := rfl

@[simp]
lemma exec_print (text : List Char) (scene : Scene) :
    exec (print text) scene = (.ok (), { scene with printed := scene.printed ++ text }) := rfl

lemma exec_attempt (cause : ε → Breakdown) (outcome : Except ε α) (scene : Scene) :
    exec (attempt cause outcome) scene
      = (outcome.mapError fun fault => .broken (cause fault), scene) := by
  cases outcome <;> rfl

lemma exec_bind (x : Task α) (f : α → Task β) (scene : Scene) :
    exec (x >>= f) scene = match exec x scene with
      | (.ok a, scene') => exec (f a) scene'
      | (.error ending, scene') => (.error ending, scene') := by
  unfold exec
  rw [ExceptT.run_bind, StateT.run_bind]
  rcases x.run.run scene with ⟨_ | _, scene'⟩ <;> rfl

lemma exec_bind_ok {x : Task α} {a : α} (h : exec x scene = (.ok a, scene')) (f : α → Task β) :
    exec (x >>= f) scene = exec (f a) scene' := by
  rw [exec_bind, h]

lemma exec_bind_error {x : Task α} (h : exec x scene = (.error ending, scene')) (f : α → Task β) :
    exec (x >>= f) scene = (.error ending, scene') := by
  rw [exec_bind, h]

/-- A sequence of tasks ends well if both of its parts do. -/
lemma exec_bind_eq_ok {x : Task α} {f : α → Task β} {b : β} :
    exec (x >>= f) scene = (.ok b, scene')
      ↔ ∃ a scene₁, exec x scene = (.ok a, scene₁) ∧ exec (f a) scene₁ = (.ok b, scene') := by
  rw [exec_bind]
  constructor
  · intro h
    rcases hx : exec x scene with ⟨_ | a, scene₁⟩
    · rw [hx] at h
      cases h
    · rw [hx] at h
      exact ⟨a, scene₁, rfl, h⟩
  · rintro ⟨a, scene₁, hx, h⟩
    rw [hx]
    exact h

lemma exec_changeTree (change : Tree → Except Obstructed Tree) (scene : Scene) :
    exec (changeTree change) scene = match change scene.tree with
      | .ok tree => (.ok (), { scene with tree })
      | .error o => (.error (.broken (.files o)), scene) := by
  cases h : change scene.tree with
  | ok tree =>
    change exec
      (attempt .files (change scene.tree) >>= fun tree => set { scene with tree }) scene = _
    rw [h]
    rfl
  | error o =>
    change exec
      (attempt .files (change scene.tree) >>= fun tree => set { scene with tree }) scene = _
    rw [h]
    rfl

/-! ## Looking -/

/-- A task that leaves the scene as it is, and that ends early or well. -/
structure IsLook (task : Task α) : Prop where
  scene : ∀ scene, (exec task scene).2 = scene
  early : ∀ scene ending, (exec task scene).1 = .error ending → ending.IsEarly

lemma IsLook.bind {x : Task α} {f : α → Task β} (hx : x.IsLook) (hf : ∀ a, (f a).IsLook) :
    (x >>= f).IsLook := by
  constructor
  all_goals
    intro scene
    have hscene := hx.scene scene
    have hearly := hx.early scene
    rw [exec_bind]
    generalize exec x scene = outcome at hscene hearly ⊢
    obtain ⟨ending | a, scene'⟩ := outcome
  · exact hscene
  · exact ((hf a).scene scene').trans hscene
  · rintro _ ⟨⟩
    exact hearly ending rfl
  · exact (hf a).early scene'

lemma isLook_pure (a : α) : (pure a : Task α).IsLook where
  scene _ := rfl
  early := by rintro scene ending ⟨⟩

lemma isLook_throw (h : ending.IsEarly) : (throw ending : Task α).IsLook where
  scene _ := rfl
  early := by
    rintro scene _ ⟨⟩
    exact h

lemma isLook_tree : tree.IsLook where
  scene _ := rfl
  early := by rintro scene ending ⟨⟩

/-- An outcome whose fault is none of the work of a batch. -/
lemma isLook_attempt {cause : ε → Breakdown}
    (hcause : ∀ fault, (Ending.broken (cause fault)).IsEarly)
    (outcome : Except ε α) : (attempt cause outcome).IsLook := by
  cases outcome with
  | ok a => exact isLook_pure a
  | error fault => exact isLook_throw (hcause fault)

lemma isLook_absolute (path : Path) : (absolute path).IsLook := by
  rw [absolute]
  split
  · refine IsLook.bind (isLook_throw ?_) fun _ => isLook_tree.bind fun _ => isLook_pure _
    trivial
  · exact isLook_tree.bind fun _ => isLook_pure _

lemma isLook_look (path : Path) : (look path).IsLook := by
  rw [look]
  split
  · refine IsLook.bind (isLook_throw ?_) fun _ => isLook_tree.bind fun _ => isLook_pure _
    trivial
  · exact isLook_tree.bind fun _ => isLook_pure _

lemma isLook_refuseDirectory (path : Path) : (refuseDirectory path).IsLook := by
  refine (isLook_look path).bind fun item => ?_
  split
  · exact isLook_throw trivial
  · exact isLook_pure _

lemma isLook_checkOption (kind : OptionKind) (text : String) : (checkOption kind text).IsLook := by
  cases kind with
  | file =>
    refine (isLook_look _).bind fun item => ?_
    split
    · exact isLook_pure _
    · exact isLook_throw trivial
  | target => exact isLook_refuseDirectory _
  | place => exact (isLook_absolute _).bind isLook_refuseDirectory
  | word => exact isLook_pure _

/-- A loop that looks at each of its items. -/
lemma isLook_forIn (names : List String) {step : String → Task (ForInStep PUnit)}
    (hstep : ∀ name, (step name).IsLook) :
    (forIn names PUnit.unit fun name _ => step name : Task PUnit).IsLook := by
  induction names with
  | nil => exact isLook_pure _
  | cons name rest ih =>
    rw [List.forIn_cons]
    refine (hstep name).bind fun next => ?_
    cases next with
    | done u => exact isLook_pure u
    | yield u => exact ih

lemma isLook_request (options : List (String × OptionKind)) (ofArguments : Arguments → Option α)
    (a : Arguments) : (request options ofArguments a).IsLook := by
  refine (isLook_forIn _ fun name => ?_).bind fun _ => ?_
  · split
    · exact (isLook_checkOption _ _).bind fun _ => isLook_pure _
    · exact isLook_pure _
  · split
    · exact isLook_pure _
    · exact isLook_throw trivial

/-- The request that a command makes is the one of its arguments. -/
theorem exec_request_ok {options : List (String × OptionKind)}
    {ofArguments : Arguments → Option α} {a : Arguments} {r : α}
    (h : exec (request options ofArguments a) scene = (.ok r, scene')) :
    ofArguments a = some r ∧ scene' = scene := by
  have hscene : scene' = scene := by
    have hlook := (isLook_request options ofArguments a).scene scene
    rw [h] at hlook
    exact hlook
  rw [request, exec_bind_eq_ok] at h
  obtain ⟨_, scene₁, -, h⟩ := h
  split at h
  · rename_i r' hr
    cases h
    exact ⟨hr, hscene⟩
  · cases h

end Task

end Shortlist
