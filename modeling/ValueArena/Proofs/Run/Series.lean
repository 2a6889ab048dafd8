import ValueArena.Proofs.Run.Undisturbed
import ValueArena.Proofs.View.Exact

/-!
The running sum whose counters live in a list. Its rounds are those of a recurrence on numbers: they
write the two doubles in place and nothing else, so that the list serves the same two handles all
the time.
-/
namespace ValueArena

variable {T : Type → Type → Type} [KeyMap T]

namespace Arena

variable {a : Arena} {p : Picture} {x : Addr} {l r : Binary64}

/-- A computation on a double puts the result in its place. -/
theorem overwrite_double (shows : a.Shows p) (found : p.heap x = some (.plain (.double l)))
    (op : Operation) (source : Source) (operand : a.operand (p.heap.handleAt x) source = .ok r) :
    ∃ b, apply op (p.heap.handleAt x) source a = (.ok (op.eval l r), b) ∧
      b.Shows (p.put x (.plain (.double (op.eval l r)))) ∧
      p.Evolves [] (p.put x (.plain (.double (op.eval l r)))) := by
  have required := Heap.require_handleAt (shows.addr_ne_null found) found
  obtain ⟨old, b, same, becomes, wrote, rewrites⟩ :=
    write_number (d := ⟨.double, (Cell.plain (.double l)).size, x⟩) shows.holds doubles found rfl
      (op.eval l r)
  obtain ⟨shows_b, evolves⟩ := shows.rewrite_plain found becomes rewrites
  refine ⟨b, ?_, shows_b, evolves⟩
  have required : (p.heap.handleAt x).require .double = _ := required
  have loaded : a.load Binary64 (Descriptor.payload
      ⟨(Cell.plain (.double l)).kind, (Cell.plain (.double l)).size, x⟩) = .ok l :=
    load_plain (shows.holds.lies found) rfl (by decide)
  simp only [apply, Step.view_bind, required, operand, loaded]
  exact Step.bind_ok wrote

end Arena

namespace Samples

/-- The counter and the sum after so many rounds. -/
def series (step : Binary64) : Nat → Binary64 × Binary64
  | 0 => (.zero, .zero)
  | round + 1 =>
    let (i, sum) := series step round
    (i.add step, sum.add i)

/-- The first round at which the counter exceeds the limit. -/
structure EndsAt (limit step : Binary64) (round : Nat) : Prop where
  ends : (series step round).1.exceeds limit = true
  first : ∀ k < round, (series step k).1.exceeds limit = false

/-- The view serves two doubles, the counter and the sum. -/
structure Counts (a : Arena) (p : Picture) (v : ListView) (i sum : Addr)
    (values : Binary64 × Binary64) : Prop where
  shows : a.Shows p
  list : p.heap.IsList v.header.addr
  view : v = p.view v.header
  contents : (p.lists v.header.addr).map Entry.content = [i, sum]
  counter : p.heap i = some (.plain (.double values.1))
  total : p.heap sum = some (.plain (.double values.2))
  apart : i ≠ sum

/-- Nothing but the two doubles is different. -/
structure Recounted (p : Picture) (i sum : Addr) (q : Picture) : Prop where
  evolves : p.Evolves [] q
  room : q.room = p.room
  others : ∀ x, x ≠ i → x ≠ sum → q.heap x = p.heap x

variable {a : Arena} {p : Picture} {v : ListView} {i sum : Addr} {values : Binary64 × Binary64}
  {limit step : Binary64}

theorem Counts.values_eq (counts : Counts a p v i sum values) :
    v.values = #[p.heap.handleAt i, p.heap.handleAt sum] := by
  have handles : (p.lists v.header.addr).map (fun e => p.heap.handleAt e.content) =
      ((p.lists v.header.addr).map Entry.content).map p.heap.handleAt := by
    rw [List.map_map]
    rfl
  rw [counts.view, Picture.view, handles, counts.contents]
  rfl

/-- The list serves a handle without being read again. -/
theorem Counts.get_apply (counts : Counts a p v i sum values) {index : Nat} {h : Handle}
    (found : v.values[index]? = some h) :
    ListView.reading (fun a => ListView.get a index) (v, a) = (.ok h, (v, a)) := by
  have current : v.Current a p := fun _ => counts.view
  have fresh := ListView.ensureFresh_current counts.shows counts.list current
  rw [← counts.view] at fresh
  apply ListView.reading_apply
  have answer : ListView.get a index v = _ := ListView.read_apply fresh _
  rw [answer, found]

theorem Counts.counter_apply (counts : Counts a p v i sum values) :
    ListView.reading (fun a => ListView.get a 0) (v, a) = (.ok (p.heap.handleAt i), (v, a)) ∧
      (Step.view (·.readDouble (p.heap.handleAt i)) : ArenaStep Binary64) a =
        (.ok values.1, a) := by
  refine ⟨counts.get_apply (by rw [counts.values_eq]; rfl), ?_⟩
  rw [Step.view_apply, Arena.readDouble_of_holds counts.shows.holds counts.counter]
  rfl

/-- One round: the counter is added to the sum, and the step to the counter. -/
theorem Counts.round (counts : Counts a p v i sum values) (step : Binary64) :
    ∃ b₁ b q, Arena.apply .add (p.heap.handleAt sum) (.handle (p.heap.handleAt i)) a =
        (.ok (values.2.add values.1), b₁) ∧
      Arena.apply .add (p.heap.handleAt i) (.number step) b₁ = (.ok (values.1.add step), b) ∧
      Counts b q v i sum (values.1.add step, values.2.add values.1) ∧ Recounted p i sum q := by
  have shows := counts.shows
  have operand : a.operand (p.heap.handleAt sum) (.handle (p.heap.handleAt i)) = .ok values.1 := by
    have read := Arena.readDouble_of_holds shows.holds counts.counter
    rw [Heap.handleAt_of_some counts.counter] at read ⊢
    exact read
  obtain ⟨b₁, summed, shows₁, evolves₁⟩ :=
    Arena.overwrite_double shows counts.total .add _ operand
  have counter₁ : (p.put sum (.plain (.double (Operation.add.eval values.2 values.1)))).heap i =
      some (.plain (.double values.1)) := (Heap.put_other counts.apart).trans counts.counter
  obtain ⟨b, counted, shows_b, evolves₂⟩ :=
    Arena.overwrite_double shows₁ counter₁ .add (.number step) rfl
  have evolves := evolves₁.trans_quiet evolves₂
  rw [evolves₁.grows.handleAt counts.counter] at counted
  refine ⟨b₁, b, _, summed, counted, ⟨shows_b, evolves.grows.isList counts.list, ?_, ?_, ?_, ?_,
    counts.apart⟩, ⟨evolves, rfl, ?_⟩⟩
  · rw [evolves.view_eq shows.formed shows_b.formed.null]
    exact counts.view
  · exact counts.contents
  · exact Heap.put_self ..
  · exact (Heap.put_other counts.apart.symm).trans (Heap.put_self ..)
  · intro x not_i not_sum
    exact (Heap.put_other not_i).trans (Heap.put_other not_sum)

theorem Recounted.trans {q r : Picture} (first : Recounted p i sum q)
    (second : Recounted q i sum r) : Recounted p i sum r := by
  refine ⟨first.evolves.trans_quiet second.evolves, second.room.trans first.room, ?_⟩
  intro x not_i not_sum
  rw [second.others x not_i not_sum, first.others x not_i not_sum]

/-- A round ends the loop when the counter exceeds the limit. -/
theorem sumRounds_ends (counts : Counts a p v i sum values) (rounds : Nat)
    (ends : values.1.exceeds limit = true) :
    sumRounds limit step (rounds + 1) (v, a) = (.ok true, (v, a)) := by
  obtain ⟨got, looked⟩ := counts.counter_apply
  rw [sumRounds, Step.bind_ok got, Step.bind_ok (Step.onSecond_apply looked), if_pos ends]
  rfl

/-- Otherwise it goes on from the next counter and sum. -/
theorem sumRounds_goes_on (counts : Counts a p v i sum values) (step : Binary64) (rounds : Nat)
    (below : values.1.exceeds limit = false) :
    ∃ b q, sumRounds limit step (rounds + 1) (v, a) = sumRounds limit step rounds (v, b) ∧
      Counts b q v i sum (values.1.add step, values.2.add values.1) ∧ Recounted p i sum q := by
  obtain ⟨got, looked⟩ := counts.counter_apply
  have got_sum : ListView.reading (fun a => ListView.get a 1) (v, a) =
      (.ok (p.heap.handleAt sum), (v, a)) := counts.get_apply (by rw [counts.values_eq]; rfl)
  obtain ⟨b₁, b, q, summed, counted, next, recounted⟩ := counts.round step
  refine ⟨b, q, ?_, next, recounted⟩
  rw [sumRounds, Step.bind_ok got, Step.bind_ok (Step.onSecond_apply looked),
    if_neg (by simp [below]), Step.bind_ok got_sum, Step.bind_ok (Step.onSecond_apply summed),
    Step.bind_ok (Step.onSecond_apply counted)]

/-- The loop runs through the rounds of the recurrence. -/
theorem sumRounds_runs {round rounds more : Nat} (counts : Counts a p v i sum (series step round))
    (enough : more < rounds)
    (below : ∀ k < more, (series step (round + k)).1.exceeds limit = false)
    (ends : (series step (round + more)).1.exceeds limit = true) :
    ∃ b q, sumRounds limit step rounds (v, a) = (.ok true, (v, b)) ∧
      Counts b q v i sum (series step (round + more)) ∧ Recounted p i sum q := by
  -- The induction is on the rounds to come; each leaves the view as it is and counts on.
  induction more generalizing round rounds a p with
  | zero =>
    obtain ⟨rounds, rfl⟩ := Nat.exists_eq_add_of_lt enough
    rw [Nat.zero_add]
    exact ⟨a, p, sumRounds_ends counts rounds ends, counts, ⟨.refl p, rfl, fun _ _ _ => rfl⟩⟩
  | succ more ih =>
    obtain ⟨rounds, rfl⟩ := Nat.exists_eq_add_of_lt (Nat.zero_lt_of_lt enough)
    rw [Nat.zero_add]
    obtain ⟨b₁, q₁, ran, next, recounted⟩ :=
      sumRounds_goes_on counts step rounds (below 0 (Nat.succ_pos more))
    have next : Counts b₁ q₁ v i sum (series step (round + 1)) := next
    have shift : ∀ k, round + 1 + k = round + (k + 1) := fun k => by omega
    obtain ⟨b, q, runs, counts_q, recounted_q⟩ := ih next (show more < rounds by omega)
      (fun k less => shift k ▸ below (k + 1) (Nat.succ_lt_succ less)) (shift more ▸ ends)
    rw [shift] at counts_q
    exact ⟨b, q, ran.trans runs, counts_q, recounted.trans recounted_q⟩

/-- The bytes of the two doubles, of the list and of its two items. -/
def seriesLengths : List Nat := [9, 9, 21, 17, 17]

/-- The two doubles and the list, the last one first. -/
def founding (i sum l : Addr) : List Descriptor :=
  [⟨.list, (Cell.list .null .null 0).size, l⟩, ⟨.double, (Cell.plain (.double .zero)).size, sum⟩,
    ⟨.double, (Cell.plain (.double .zero)).size, i⟩]

/-- Two doubles and an empty list are new. -/
structure Begun (p : Picture) (i sum l : Addr) (a : Arena) (q : Picture) : Prop where
  shows : a.Shows q
  more : p.ExtendsBy (founding i sum l) q
  evolves : p.Evolves [] q
  counter : q.heap i = some (.plain (.double .zero))
  total : q.heap sum = some (.plain (.double .zero))
  list : q.heap l = some (.list .null .null 0)

/-- The creations that a sum starts with. -/
theorem begins (shows : a.Shows p) {r₁ r₂ r₃ : PageStore.Room}
    (first : a.store.room.reserve 9 = some r₁) (second : r₁.reserve 9 = some r₂)
    (third : r₂.reserve 21 = some r₃) :
    ∃ i a₁ sum a₂ v b q, Arena.createDouble .zero a = (.ok i, a₁) ∧
      Arena.createDouble .zero a₁ = (.ok sum, a₂) ∧ ListView.create a₂ = (.ok v, b) ∧
      Begun p i.addr sum.addr v.header.addr b q ∧ b.store.room = r₃ ∧ q.Sees v ∧
      v = q.view v.header ∧ i = q.heap.handleAt i.addr ∧ sum = q.heap.handleAt sum.addr := by
  obtain ⟨i, a₁, made_i, adds_i, rfl⟩ :=
    Arena.adds_of_served (Arena.create_cases shows.holds.bounded (.double .zero)) first
  have creates_i := adds_i.creates shows.holds
  obtain ⟨shows₁, evolves₁⟩ := shows.create creates_i
  obtain ⟨sum, a₂, made_sum, adds_sum, rfl⟩ :=
    Arena.adds_of_served (Arena.create_cases shows₁.holds.bounded (.double .zero)) second
  have creates_sum := adds_sum.creates shows₁.holds
  obtain ⟨shows₂, evolves₂⟩ := shows₁.create creates_sum
  obtain ⟨l, b, made_l, adds_l, rfl⟩ :=
    Arena.adds_of_served (Arena.createList_cases shows₂.holds.bounded) third
  obtain ⟨creates_l, shows_b, evolves_b⟩ := shows₂.add_list adds_l
  have null := shows_b.formed.null
  have required : l.require .list = .ok ⟨.list, (Cell.list .null .null 0).size, l.addr⟩ := by
    rw [creates_l.handle]
    exact Handle.require_stored creates_l.addr_ne_null
  obtain ⟨_, _, opened, sees⟩ := ListView.ofHandle_of_require shows_b creates_l.issued required
  have created : ListView.create a₂ = _ :=
    (Step.bind_ok made_l).trans (by rw [Step.view_apply, opened])
  have more₁ := (Picture.ExtendsBy.refl shows.formed).add creates_i a₁.store.room
  have more₂ := more₁.add creates_sum a₂.store.room
  have whole := evolves₁.trans_quiet (evolves₂.trans_quiet evolves_b)
  refine ⟨i, a₁, sum, a₂, _, b, _, made_i, made_sum, created, ⟨shows_b, more₂.add creates_l _, whole,
    ?_, ?_, Heap.put_self ..⟩, rfl, sees, rfl, ?_, ?_⟩
  · exact Heap.put_fresh creates_l.fresh (Heap.put_fresh creates_sum.fresh (Heap.put_self ..) _) _
  · exact Heap.put_fresh creates_l.fresh (Heap.put_self ..) _
  · exact (evolves₂.trans_quiet evolves_b).grows.eq_handleAt null creates_i.handle_eq
  · exact evolves_b.grows.eq_handleAt null creates_sum.handle_eq

/-- The list of an up-to-date view has an entry more, for the plain value at `x`. -/
structure Gathers (p : Picture) (v : ListView) (x item : Addr) (b : Arena) (u : ListView)
    (q : Picture) : Prop where
  shows : b.Shows q
  sees : q.Sees u
  header : u.header = v.header
  view : u = q.view u.header
  evolves : p.Evolves [.append v.header.addr ⟨item, x⟩] q
  plain : p.KeepsPlain q
  more : ∀ (o : Picture) (new : List Descriptor), o.heap.Formed o.lists →
    o.heap v.header.addr = none → o.ExtendsBy new p →
    o.ExtendsBy (⟨.listItem, (Cell.item x .null).size, item⟩ :: new) q

/-- A plain value is appended wherever there is room for an item. -/
theorem append_plain (shows : a.Shows p) (sees : p.Sees v) (view : v = p.view v.header)
    {x : Addr} {content : Content} (found : p.heap x = some (.plain content))
    (some_kind : content.kind ≠ .none) (short : (p.lists v.header.addr).length < 0xFFFFFFFF)
    {room : PageStore.Room} (served : a.store.room.reserve Arena.itemLength = some room) :
    ∃ item b u q, ListView.append (p.heap.handleAt x) (v, a) = (.ok item, (u, b)) ∧
      Gathers p v x item.addr b u q ∧ b.store.room = room := by
  have issued := Heap.issued_handleAt shows.formed.null x
  rw [Heap.handleAt_of_some found] at issued ⊢
  obtain ⟨item, kept, b, q, u, appended, appends, sees_u, left, now⟩ :=
    ListView.append_stored shows sees issued short served
  have at_x : kept.addr = x := congrArg Handle.addr (appends.keeps.trans (if_neg some_kind))
  have now := now fun _ => view
  have header : u.header = v.header := by rw [now]; rfl
  refine ⟨item, b, u, q, appended, ⟨appends.shows, sees_u, header, header ▸ now,
    at_x ▸ appends.evolves, Picture.keepsPlain_of_stays shows.formed sees.header appends.stays, ?_⟩,
    left⟩
  intro o new formed further more
  have more := more.append formed further appends (at_x ▸ found)
  rw [at_x] at more
  exact more

/-- All that a sum allocates, the last one first. -/
def tiles (i sum l first second : Addr) : List Descriptor :=
  [⟨.listItem, (Cell.item sum .null).size, second⟩, ⟨.listItem, (Cell.item i .null).size, first⟩] ++
    founding i sum l

/-- Two doubles, a list and its two items are new. -/
structure Filled (p : Picture) (i sum : Addr) (values : Binary64 × Binary64) (a : Arena)
    (v : ListView) (q : Picture) : Prop where
  counts : Counts a q v i sum values
  more : ∃ l first second, p.ExtendsBy (tiles i sum l first second) q
  evolves : ∃ one other, p.Evolves [one, other] q

/-- The appends put the counter and then the sum into the list. -/
theorem Begun.fills (begun : Begun p i sum v.header.addr a q) (formed : p.heap.Formed p.lists)
    (sees : q.Sees v) (view : v = q.view v.header) {r₁ r₂ : PageStore.Room}
    (fourth : a.store.room.reserve Arena.itemLength = some r₁)
    (fifth : r₁.reserve Arena.itemLength = some r₂) (step : Binary64) :
    ∃ first u₁ a₁ second u b r,
      ListView.append (q.heap.handleAt i) (v, a) = (.ok first, (u₁, a₁)) ∧
      ListView.append (q.heap.handleAt sum) (u₁, a₁) = (.ok second, (u, b)) ∧
      Filled p i sum (series step 0) b u r ∧ q.heap.Grows r.heap ∧ b.store.room = r₂ := by
  obtain ⟨shows, more, evolves, counter, total, list⟩ := begun
  obtain ⟨further, -, -⟩ : p.heap v.header.addr = none ∧ p.heap sum = none ∧ p.heap i = none := by
    simpa [founding] using more.fresh
  have apart : i ≠ sum := by
    have apart := more.apart
    simp only [founding, List.map_cons, List.map_nil, List.nodup_cons, List.mem_singleton] at apart
    exact fun same => apart.2.1 same.symm
  have empty : q.lists v.header.addr = [] := by
    obtain ⟨_, _, length⟩ := shows.formed.header _ _ _ _ list
    exact List.eq_nil_of_length_eq_zero length.symm
  obtain ⟨first, a₁, u₁, q₁, appended₁, gathers₁, rfl⟩ :=
    append_plain shows sees view counter nofun (by rw [empty]; decide) fourth
  have total₁ := gathers₁.plain sum _ total
  have header₁ := gathers₁.header
  have entry : q₁.lists v.header.addr = [⟨first.addr, i⟩] := by
    rw [gathers₁.evolves.lists, empty]
    exact if_pos rfl
  have short : (q₁.lists u₁.header.addr).length < 0xFFFFFFFF := by
    rw [header₁, entry, List.length_singleton]
    decide
  obtain ⟨second, b, u, r, appended₂, gathers₂, rfl⟩ :=
    append_plain gathers₁.shows gathers₁.sees gathers₁.view total₁ nofun short fifth
  rw [gathers₁.evolves.grows.handleAt total] at appended₂
  refine ⟨first, u₁, a₁, second, u, b, r, appended₁, appended₂, ⟨⟨gathers₂.shows,
    gathers₂.sees.header, gathers₂.view, ?_, gathers₂.plain i _ (gathers₁.plain i _ counter),
    gathers₂.plain sum _ total₁, apart⟩, ⟨v.header.addr, first.addr, second.addr, ?_⟩, ?_⟩,
    gathers₁.evolves.grows.trans gathers₂.evolves.grows, rfl⟩
  · have both : r.lists u₁.header.addr = q₁.lists u₁.header.addr ++ [⟨second.addr, sum⟩] := by
      rw [gathers₂.evolves.lists]
      exact if_pos rfl
    rw [gathers₂.header, both, header₁, entry]
    rfl
  · exact gathers₂.more p _ formed (header₁ ▸ further) (gathers₁.more p _ formed further more)
  · exact ⟨_, _, evolves.trans (gathers₁.evolves.trans gathers₂.evolves)⟩

theorem Filled.recounted (filled : Filled p i sum values a v q) (formed : p.heap.Formed p.lists)
    {b : Arena} {r : Picture} {next : Binary64 × Binary64} (counts : Counts b r v i sum next)
    (recounted : Recounted q i sum r) : Filled p i sum next b v r := by
  obtain ⟨before, ⟨l, first, second, more⟩, one, other, evolves⟩ := filled
  obtain ⟨-, -, -, fresh_sum, fresh_i⟩ : p.heap second = none ∧ p.heap first = none ∧
      p.heap l = none ∧ p.heap sum = none ∧ p.heap i = none := by
    simpa [tiles, founding] using more.fresh
  have grows := recounted.evolves.grows
  refine ⟨counts, ⟨l, first, second, more.quiet (more.keeps.quiet formed recounted.evolves ?_) grows
    ?_⟩, ⟨one, other, evolves.trans_quiet recounted.evolves⟩⟩
  · intro x c found found_q
    rw [recounted.others x (Heap.ne_of_fresh found fresh_i) (Heap.ne_of_fresh found fresh_sum)]
    exact found_q
  · intro x absent
    rw [recounted.others x (Heap.ne_of_fresh before.counter absent).symm
      (Heap.ne_of_fresh before.total absent).symm]
    exact absent

/-- If all requests are served the sum ends with the numbers of the recurrence. -/
theorem seriesSum_fills (shows : a.Shows p) {room : PageStore.Room} {round rounds : Nat}
    (served : a.store.room.reserveAll seriesLengths = some room) (enough : round < rounds)
    (ends : EndsAt limit step round) :
    ∃ b i sum v q, seriesSum rounds limit step a = (.ok (some (series step round)), b) ∧
      Filled p i sum (series step round) b v q ∧ b.store.room = room := by
  simp only [seriesLengths, PageStore.Room.reserveAll, Option.bind_eq_some_iff] at served
  obtain ⟨r₁, first, r₂, second, r₃, third, r₄, fourth, r₅, fifth, last⟩ := served
  obtain rfl := Option.some.inj last
  obtain ⟨i, a₁, sum, a₂, v, a₃, q, made_i, made_sum, made_v, begun, rfl, sees, view, named_i,
    named_sum⟩ := begins shows first second third
  obtain ⟨item, u₁, a₄, item', u, a₅, r, appended_i, appended_sum, filled, grows, rfl⟩ :=
    begun.fills shows.formed sees view fourth fifth step
  rw [← named_i] at appended_i
  rw [← named_sum] at appended_sum
  have below : ∀ k < round, (series step (0 + k)).1.exceeds limit = false := by
    intro k less
    rw [Nat.zero_add]
    exact ends.first k less
  have above : (series step (0 + round)).1.exceeds limit = true := by
    rw [Nat.zero_add]
    exact ends.ends
  obtain ⟨b, s, ran, counts, recounted⟩ := sumRounds_runs filled.counts enough below above
  rw [Nat.zero_add] at counts
  have looped := Step.bind_ok (f := fun _ => sumRounds limit step rounds) appended_sum
  have filling := (Step.bind_ok (f := fun _ => ListView.append sum >>= fun _ =>
    sumRounds limit step rounds) appended_i).trans (looped.trans ran)
  have grown := grows.trans recounted.evolves.grows
  have null := counts.shows.formed.null
  have counter := Arena.readDouble_of_holds counts.shows.holds counts.counter
  have total := Arena.readDouble_of_holds counts.shows.holds counts.total
  rw [← grown.eq_handleAt null named_i] at counter
  rw [← grown.eq_handleAt null named_sum] at total
  refine ⟨b, i.addr, sum.addr, u, s, ?_, filled.recounted shows.formed counts recounted, ?_⟩
  · rw [seriesSum, Step.bind_ok made_i, Step.bind_ok made_sum, Step.bind_ok made_v,
      Step.bind_ok (Step.starting_eq_ok_iff.mpr filling)]
    simp only [if_true, Step.view_bind, counter, total]
    rfl
  · rw [counts.shows.room, recounted.room, filled.counts.shows.room]

end Samples

namespace Statement

/-- What a sum leaves of the state it ran in: two doubles, a list and its two items are new, in the
room that they take, two writes went to that list, and nothing else is different. -/
structure LeavesSeries (state : Names × Arena) (writes : Nat) (room : PageStore.Room) (b : Arena) :
    Prop where
  allocates : ∃ new, state.2.Allocates new b ∧
    new.map Descriptor.kind = [.listItem, .listItem, .list, .double, .double]
  room : b.store.room = room
  generation : b.generation = state.2.generation + 2
  undisturbed : state.1.Undisturbed state.2 b (writes + 2)

/-- If the requests for five values are served, a sum ends with the counter and the sum of the first
round at which the counter exceeds the limit, however many rounds that takes. -/
theorem seriesSum_after (r : Registry T) (config : Config) (program : List Statement)
    (limit step : Binary64) (round rounds : Nat) (t : PageStore)
    (allowed : ∀ s ∈ program, s.command.isPublic = true)
    (ends : Samples.EndsAt limit step round) (enough : round < rounds)
    (served : (after r config program).2.store.reserveAll Samples.seriesLengths = .ok t) :
    ∃ b, Samples.seriesSum rounds limit step (after r config program).2 =
        (.ok (some (Samples.series step round)), b) ∧
      LeavesSeries (after r config program) (listWrites r program (.empty, .empty config)) t.room
        b := by
  obtain ⟨p, shows, names, writes⟩ := after_shows r config allowed
  have same := PageStore.reserveAll_room shows.holds.bounded Samples.seriesLengths
  rw [served] at same
  obtain ⟨b, i, sum, v, q, ran, ⟨counts, ⟨l, first, second, more⟩, one, other, evolves⟩, left⟩ :=
    Samples.seriesSum_fills shows same.symm enough ends
  have count : q.writes = p.writes + 2 := evolves.writes
  refine ⟨b, ran, ⟨_, more.allocates shows counts.shows, rfl⟩, left, ?_, ?_⟩
  · rw [counts.shows.generation, shows.generation, count, UInt64.ofNat_add]
    rfl
  · rw [← writes, ← count]
    exact Names.undisturbed_of_extends more.keeps shows counts.shows names
      (names.evolves evolves shows.formed counts.shows.formed.null) (by omega)

/-- Whole steps up to three end with a counter of four and a sum of six. -/
theorem seriesSum_after_sample : ∃ b,
    Samples.seriesSum 8 (.ofInt 3) (.ofInt 1) (after .empty ⟨64, none⟩ sample).2 =
        (.ok (some (.ofInt 4, .ofInt 6)), b) ∧
      b.generation = (after .empty ⟨64, none⟩ sample).2.generation + 2 := by
  have granted : ((after .empty ⟨64, none⟩ sample).2.store.reserveAll
      Samples.seriesLengths).isOk = true := by decide +kernel
  have last : Samples.series (.ofInt 1) 4 = (.ofInt 4, .ofInt 6) := by decide +kernel
  have ends : Samples.EndsAt (.ofInt 3) (.ofInt 1) 4 := ⟨by decide +kernel, by decide +kernel⟩
  cases served : (after .empty ⟨64, none⟩ sample).2.store.reserveAll Samples.seriesLengths with
  | error e =>
    rw [served] at granted
    cases granted
  | ok t =>
    obtain ⟨b, ran, leaves⟩ := seriesSum_after .empty ⟨64, none⟩ sample (.ofInt 3) (.ofInt 1) 4 8 t
      (by decide) ends (by decide) served
    rw [last] at ran
    exact ⟨b, ran, leaves.generation⟩

end Statement
end ValueArena
