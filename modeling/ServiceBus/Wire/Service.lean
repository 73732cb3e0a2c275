import ServiceBus.Service
import ServiceBus.Wire.Leaf

set_option autoImplicit false

/-! # Services as JSON -/

namespace ServiceBus.Wire

/-- How an operation is read. -/
def operationForm : Form Json Operation :=
  Operation.mk <$> .required "service_id" readText
    <*> .required "name" readText
    <*> .required "pattern" readWord
    <*> .defaulted "callback_operation" (readOption readText) none

/-- Read an operation. -/
def readOperation (v : Json) : Except DecodeError Operation :=
  operationForm.read "struct OperationDescriptor" v

/-- Write an operation. -/
def writeOperation (o : Operation) : Json :=
  .object
    [("callback_operation", .ofText? o.callbackOperation),
      ("name", .string o.name),
      ("pattern", writeWord o.pattern),
      ("service_id", .string o.serviceId)]

/-- How a service is read. -/
def serviceForm : Form Json Service :=
  Service.mk <$> .required "service_id" readText
    <*> .defaulted "operations" (readList readOperation) []
    <*> .defaulted "default_fault_operation" (readOption readText) none

/-- Read a service. -/
def readService (v : Json) : Except DecodeError Service :=
  serviceForm.read "struct ServiceDescription" v

/-- Write a service. -/
def writeService (s : Service) : Json :=
  .object
    [("default_fault_operation", .ofText? s.defaultFaultOperation),
      ("operations", .array (s.operations.map writeOperation)),
      ("service_id", .string s.serviceId)]

end ServiceBus.Wire
