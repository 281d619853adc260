/-
**Builders that leave databases alone.**

* `Site.Spares`: no database was registered or closed, though there may be new ones;
* `Builder.IsOrderly`: a builder spares databases, and returns a new one or one that was built by a
  nested section;
* `Catalog.isOrderly_builtIn`, `StandIn.isOrderly_builder`: the built-in builders and all stand-ins
  are so;
* `Catalog.IsOrderly.register`: a catalog stays orderly with one more of them.
-/

import StoreTopology.Builder.StandIn
import StoreTopology.Proofs.Builder.Growing
import StoreTopology.Proofs.Database.Closing

namespace StoreTopology

open StoreTopology.Action

/-! ### Sites on which nothing is registered or closed -/

/-- No database was registered or closed. There may be new ones, which are open. -/
structure Site.Spares (before after : Site) : Prop extends Site.KeepsRegistries before after where
  databases : before.databases.next ≤ after.databases.next
  closed : ∀ id, (after.state id).closed = (before.state id).closed
  closings : after.closings = before.closings

namespace Site

variable {before between after : Site}

instance : Std.Refl Site.Spares :=
  ⟨fun site => ⟨Std.Refl.refl site, Nat.le_refl _, fun _ => rfl, rfl⟩⟩

theorem Spares.trans (first : Site.Spares before between) (second : Site.Spares between after) :
    Site.Spares before after where
  toKeepsRegistries := first.toKeepsRegistries.trans second.toKeepsRegistries
  databases := Nat.le_trans first.databases second.databases
  closed := fun id => (second.closed id).trans (first.closed id)
  closings := second.closings.trans first.closings

instance : Trans Site.Spares Site.Spares Site.Spares := ⟨Spares.trans⟩

/-- A site that grows without a database being closed. -/
theorem Grows.spares (grows : Site.Grows before after)
    (closings : after.closings = before.closings) : Site.Spares before after where
  toKeepsRegistries := .of_same grows.registries
  databases := grows.next
  closed := fun id => congrArg DatabaseState.closed (grows.state id)
  closings := closings

theorem spares_remember {event : Event} (nothing : event.closed? = none) (site : Site) :
    Site.Spares site (site.remember event) :=
  Grows.spares (.of_same rfl rfl) (closings_remember nothing site)

theorem admits_spares : Admits Site.Spares where
  log := fun site _ _ => spares_remember rfl site
  files := fun _ _ => Grows.spares (.of_same rfl rfl) rfl
  cell := fun _ _ => Grows.spares (.of_same rfl rfl) rfl
  database := fun site => (grows_addDatabase site).spares rfl

end Site

/-- Closing a storage leaves databases alone. -/
theorem Storage.spares_close (storage : Storage) : Within Site.Spares storage.close := by
  intro site
  refine Site.Grows.spares ?_ (storage.closings_close site)
  rw [storage.close_frame]
  exact .of_same rfl rfl

/-! ### Orderly builders -/

/-- A builder neither registers nor closes databases, and a database that it returns is new or was
built by a nested section. -/
structure Builder.IsOrderly (builder : Builder) : Prop where
  spares : ∀ registry name options children,
    Within Site.Spares (builder.build registry name options children)
  isNew : ∀ {registry name options children site database after},
    builder.build registry name options children site = (.ok (.database database), after) →
      database.IsNew registry site after ∨ Built.database database ∈ children

/-- All builders of a catalog are orderly. -/
def Catalog.IsOrderly (catalog : Catalog) : Prop :=
  ∀ typeName builder, catalog.lookup? typeName = some builder → builder.IsOrderly

namespace Catalog

variable {catalog : Catalog}

theorem isOrderly_builtIn : builtIn.IsOrderly := by
  intro typeName builder found
  refine ⟨within_builtIn Site.admits_spares found, fun succeeded => .inl ?_⟩
  exact (isFresh_builtIn typeName builder found).isNew succeeded

/-- A catalog stays orderly with one more orderly builder. -/
theorem IsOrderly.register (orderly : catalog.IsOrderly) {builder : Builder}
    (isOrderly : builder.IsOrderly) (typeName : String) :
    (catalog.register typeName builder).IsOrderly := by
  intro other found isFound
  rw [lookup?_register] at isFound
  by_cases same : Text.lowercased typeName = Text.lowercased other
  · rw [if_pos same] at isFound
    exact Option.some.inj isFound ▸ isOrderly
  · rw [if_neg same] at isFound
    exact orderly other found isFound

end Catalog

/-! ### Stand-ins -/

namespace StandIn

variable {registry : RegistryId} {name : Option String} {options : Options} {children : List Built}

theorem spares_build (standIn : StandIn) :
    Within Site.Spares (standIn.build registry name options children) := by
  have maps : ∀ label, Within Site.Spares (do
      return Built.storage (← Storage.newMapping label .empty) : Action ConfigError Built) :=
    fun label => .bind (Storage.within_newMapping Site.admits_spares _ _) fun _ => .pure _
  unfold build
  dsimp only
  split
  · exact .pure _
  · exact .pure _
  · exact maps _
  · exact maps _
  · exact maps _
  · exact .bind (Database.within_create Site.admits_spares _ _ _) fun _ => .pure _
  · exact .bind (Storage.within_newMapping Site.admits_spares _ _) fun _ =>
      .bind (Database.within_create Site.admits_spares _ _ _) fun _ => .pure _
  · exact .pure _
  · exact fun site => Std.Refl.refl site
  · exact fun site => Std.Refl.refl site

theorem isNew_of_build (standIn : StandIn) {site after : Site} {database : Database}
    (succeeded : standIn.build registry name options children site =
      (.ok (.database database), after)) :
    database.IsNew registry site after ∨ Built.database database ∈ children := by
  unfold build at succeeded
  split at succeeded
  · cases succeeded
    exact .inr List.mem_cons_self
  · cases succeeded
  · cases succeeded
  · cases succeeded
  · cases succeeded
  · obtain ⟨created, _, isCreated, succeeded⟩ := bind_eq_ok_iff.mp succeeded
    cases succeeded
    exact .inl (.create isCreated)
  · obtain ⟨inner, between, mapped, succeeded⟩ := bind_eq_ok_iff.mp succeeded
    obtain ⟨created, _, isCreated, succeeded⟩ := bind_eq_ok_iff.mp succeeded
    cases succeeded
    have grows := (Storage.within_newMapping Site.admits_grows _ _).of_ok mapped
    exact .inl ((Database.IsNew.create isCreated).extend grows.next (Nat.le_refl _))
  · cases succeeded
  · cases succeeded
  · cases succeeded

/-- All stand-ins are orderly. -/
theorem isOrderly_builder (standIn : StandIn) (kind : SectionKind) (children : ChildShape)
    (schema : OptionSchema) : (standIn.builder kind children schema).IsOrderly where
  spares := fun _ _ _ _ => standIn.spares_build
  isNew := fun succeeded => standIn.isNew_of_build succeeded

end StandIn

end StoreTopology
