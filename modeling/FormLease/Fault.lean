import FormLease.Fault.Database
import FormLease.Fault.Redis
import FormLease.Fault.Settings

/-!
# Faults and the chains behind them

A `LeaseFault` is how an operation on a lease can fail: a wrong
argument, contention that outlasted the policy, or a fault below. A
`Fault` is any error that can stand in a chain of causes. `Fault.cause?`
is one step down that chain and `Fault.chain` all of them, as texts.
A service fault inside a lease fault is transparent: it adds no text and
no step of its own.
-/

namespace FormLease

/-- Faults of the infrastructure a process sets up before it works. -/
inductive ServiceFault where
  | database (fault : DatabaseFault)
  | redis (fault : RedisFault)
  | settings (fault : SettingsFault)
  deriving DecidableEq

mutual

inductive LeaseFault where
  | invalidArgument (field reason : String)
  /-- Every attempt met a live holder. -/
  | timedOut (holderId resourceKey : String)
  /-- The store or the wait between two attempts failed. -/
  | storeFailed (resourceKey : String) (cause : Fault)
  | database (fault : DatabaseFault)
  | redis (fault : RedisFault)
  | service (fault : ServiceFault)

inductive Fault where
  | plain (text : String)
  /-- A wait that was cut short. -/
  | interrupted (text : String)
  | database (fault : DatabaseFault)
  | redis (fault : RedisFault)
  | settings (fault : SettingsFault)
  | lease (fault : LeaseFault)

end

instance : Inhabited LeaseFault := ⟨.timedOut "" ""⟩

instance : Inhabited Fault := ⟨.plain ""⟩

def DatabaseFault.labelled (f : DatabaseFault) : String := "数据库错误: " ++ f.message

def RedisFault.labelled (f : RedisFault) : String := "Redis 错误: " ++ f.message

namespace ServiceFault

def message : ServiceFault → String
  | database f => f.labelled
  | redis f => f.labelled
  | settings f => "配置错误: " ++ f.message

def code : ServiceFault → String
  | database _ => "DATABASE_ERROR"
  | redis _ => "REDIS_ERROR"
  | settings _ => "CONFIG_ERROR"

/-- Whether doing the whole operation again later may help. -/
def retryable : ServiceFault → Bool
  | database _ | redis _ => true
  | settings _ => false

def cause : ServiceFault → Fault
  | database f => .database f
  | redis f => .redis f
  | settings f => .settings f

end ServiceFault

mutual

def LeaseFault.message : LeaseFault → String
  | .invalidArgument field reason => "无效的参数: " ++ field ++ " - " ++ reason
  | .timedOut holderId resourceKey =>
    "获取锁超时: lock_id=" ++ holderId ++ ", resource_key=" ++ resourceKey
  | .storeFailed resourceKey cause =>
    "锁存储故障: resource_key=" ++ resourceKey ++ ": " ++ cause.message
  | .database f => f.labelled
  | .redis f => f.labelled
  | .service f => f.message

def Fault.message : Fault → String
  | .plain text => text
  | .interrupted text => "退避等待被中断: " ++ text
  | .database f => f.message
  | .redis f => f.message
  | .settings f => f.message
  | .lease f => f.message

end

namespace LeaseFault

def code : LeaseFault → String
  | invalidArgument _ _ => "INVALID_ARGUMENT"
  | timedOut _ _ => "LOCK_TIMEOUT"
  | storeFailed _ _ => "LOCK_STORE_FAILURE"
  | database _ => "DATABASE_ERROR"
  | redis _ => "REDIS_ERROR"
  | service f => f.code

/-- Whether doing the whole operation again later may help. A store
failure leaves open who owns the lease, so repeating it is not safe. -/
def retryable : LeaseFault → Bool
  | timedOut _ _ | database _ | redis _ => true
  | service f => f.retryable
  | invalidArgument _ _ | storeFailed _ _ => false

/-- The fault behind this one. -/
def cause? : LeaseFault → Option Fault
  | invalidArgument _ _ | timedOut _ _ => none
  | storeFailed _ cause => some cause
  | database f => some (.database f)
  | redis f => some (.redis f)
  | service f => some f.cause

end LeaseFault

namespace Fault

/-- The fault behind this one. -/
def cause? : Fault → Option Fault
  | plain _ | interrupted _ | settings _ => none
  | database (.parameter f) => some (database f)
  | database f => f.cause?.map plain
  | redis f => f.cause?.map plain
  | lease f => f.cause?

mutual

def depth : Fault → Nat
  | .plain _ | .interrupted _ | .settings _ => 0
  | .database f => f.depth
  | .redis f => f.cause?.elim 0 fun _ => 1
  | .lease f => leaseDepth f

def leaseDepth : LeaseFault → Nat
  | .invalidArgument _ _ | .timedOut _ _ => 0
  | .storeFailed _ cause => cause.depth + 1
  | .database f => f.depth + 1
  | .redis f => (f.cause?.elim 0 fun _ => 1) + 1
  | .service (.database f) => f.depth + 1
  | .service (.redis f) => (f.cause?.elim 0 fun _ => 1) + 1
  | .service (.settings _) => 1

end

/-- Each step down a chain shortens it by one. -/
theorem depth_of_cause? {f c : Fault} (h : f.cause? = some c) : f.depth = c.depth + 1 := by
  cases f with
  | plain _ => simp [cause?] at h
  | interrupted _ => simp [cause?] at h
  | settings _ => simp [cause?] at h
  | database d =>
    cases d <;> simp_all [cause?, depth, DatabaseFault.depth, DatabaseFault.cause?] <;>
      simp [← h, depth]
  | redis r =>
    obtain ⟨t, ht, rfl⟩ := Option.map_eq_some_iff.1 h
    simp [depth, ht]
  | lease l =>
    cases l with
    | invalidArgument _ _ => simp [cause?, LeaseFault.cause?] at h
    | timedOut _ _ => simp [cause?, LeaseFault.cause?] at h
    | storeFailed _ _ => simp_all [cause?, LeaseFault.cause?, depth, leaseDepth]
    | database _ =>
      simp only [cause?, LeaseFault.cause?, Option.some.injEq] at h
      simp [← h, depth, leaseDepth]
    | redis _ =>
      simp only [cause?, LeaseFault.cause?, Option.some.injEq] at h
      simp [← h, depth, leaseDepth]
    | service s =>
      simp only [cause?, LeaseFault.cause?, Option.some.injEq] at h
      cases s <;> simp [← h, ServiceFault.cause, depth, leaseDepth]

/-- The texts of all faults behind this one, nearest first. -/
def chain (f : Fault) : List String :=
  match _h : f.cause? with
  | none => []
  | some c => c.message :: c.chain
termination_by f.depth
decreasing_by
  have := depth_of_cause? _h
  omega

end Fault

/-- The texts of all faults behind this one, nearest first. -/
def LeaseFault.chain (f : LeaseFault) : List String := Fault.chain (.lease f)

/-- The texts of all faults behind this one, nearest first. -/
def ServiceFault.chain (f : ServiceFault) : List String := f.cause.message :: f.cause.chain

end FormLease
