/-!
# Services

The device has four services. Each owns one connection, one wait slot and a
pair of latches, so tables over services are total: `PerService` holds exactly
one value for each, in table order.
-/

namespace RadioLinks

/-- The services that may hold a connection. -/
inductive Service where
  | timeSync
  | deviceManagement
  | messaging
  | webTransfer
  deriving DecidableEq, Repr, Inhabited

namespace Service

/-- All services in table order. -/
def all : List Service := [timeSync, deviceManagement, messaging, webTransfer]

theorem mem_all (service : Service) : service ∈ all := by cases service <;> simp [all]

theorem all_nodup : all.Nodup := by decide

/-- A service's place in table order. -/
def index : Service → Nat
  | timeSync => 0
  | deviceManagement => 1
  | messaging => 2
  | webTransfer => 3

def name : Service → String
  | timeSync => "time_sync"
  | deviceManagement => "device_management"
  | messaging => "messaging"
  | webTransfer => "web_transfer"

def ofName? (text : String) : Option Service := all.find? fun service => service.name == text

theorem ofName?_name (service : Service) : ofName? service.name = some service := by
  cases service <;> decide

end Service

/-- One value for each service. -/
structure PerService (α : Type) where
  timeSync : α
  deviceManagement : α
  messaging : α
  webTransfer : α
  deriving DecidableEq, Repr

namespace PerService

/-- The same value for every service. -/
def const (value : α) : PerService α := ⟨value, value, value, value⟩

instance [Inhabited α] : Inhabited (PerService α) := ⟨const default⟩

def get (table : PerService α) : Service → α
  | .timeSync => table.timeSync
  | .deviceManagement => table.deviceManagement
  | .messaging => table.messaging
  | .webTransfer => table.webTransfer

def set (table : PerService α) (service : Service) (value : α) : PerService α :=
  match service with
  | .timeSync => { table with timeSync := value }
  | .deviceManagement => { table with deviceManagement := value }
  | .messaging => { table with messaging := value }
  | .webTransfer => { table with webTransfer := value }

def update (table : PerService α) (service : Service) (change : α → α) : PerService α :=
  table.set service (change (table.get service))

def map (table : PerService α) (change : α → β) : PerService β :=
  ⟨change table.timeSync, change table.deviceManagement, change table.messaging,
    change table.webTransfer⟩

def toList (table : PerService α) : List α := Service.all.map table.get

@[simp] theorem get_const (value : α) (service : Service) : (const value).get service = value := by
  cases service <;> rfl

@[simp] theorem get_set_self (table : PerService α) (service : Service) (value : α) :
    (table.set service value).get service = value := by
  cases service <;> rfl

theorem get_set_of_ne (table : PerService α) {service other : Service} (value : α)
    (h : other ≠ service) : (table.set service value).get other = table.get other := by
  cases service <;> cases other <;> simp_all [get, set]

theorem get_set (table : PerService α) (service other : Service) (value : α) :
    (table.set service value).get other = if other = service then value else table.get other := by
  by_cases h : other = service
  · subst h; simp
  · rw [get_set_of_ne table value h, if_neg h]

theorem get_update (table : PerService α) (service other : Service) (change : α → α) :
    (table.update service change).get other =
      if other = service then change (table.get other) else table.get other := by
  by_cases h : other = service
  · subst h; simp [update]
  · rw [update, get_set_of_ne table _ h, if_neg h]

@[simp] theorem get_map (table : PerService α) (change : α → β) (service : Service) :
    (table.map change).get service = change (table.get service) := by
  cases service <;> rfl

theorem ext_get {a b : PerService α} (h : ∀ service, a.get service = b.get service) : a = b := by
  cases a; cases b
  simp only [mk.injEq]
  exact ⟨h .timeSync, h .deviceManagement, h .messaging, h .webTransfer⟩

end PerService

end RadioLinks
