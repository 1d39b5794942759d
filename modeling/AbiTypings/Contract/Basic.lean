import AbiTypings.EvmType.Basic

/-!
# Contracts

The interface of a contract, sorted by how its parts are used: functions that change the state,
functions that only read it, accessors of single values, and events. Each list keeps the order of
the interface description.

Names are kept as the values they were read as. A parameter without a name has the name null.
-/

namespace AbiTypings

/-- An input or output of a function. -/
structure Parameter where
  /-- The name, null if there is none. -/
  name : Json
  /-- The type. -/
  type : EvmType

/-- An argument of an event. -/
structure EventParameter extends Parameter where
  /-- Whether events can be searched by it. -/
  indexed : Bool

/-- What is called by name with inputs and gives outputs. -/
structure Method where
  /-- The name. -/
  name : Json
  /-- The inputs in order. -/
  inputs : List Parameter
  /-- The outputs in order. -/
  outputs : List Parameter

/-- A method that changes the state. -/
structure Function extends Method where
  /-- Whether a call may carry a payment. -/
  payable : Bool

/-- A method without inputs that gives a single value. -/
structure Accessor where
  /-- The name. -/
  name : Json
  /-- The value it gives. -/
  output : Parameter

/-- An event. -/
structure Event where
  /-- The name. -/
  name : Json
  /-- The arguments in order. -/
  inputs : List EventParameter
  /-- Whether its records leave out the name. -/
  anonymous : Bool

/-- The interface of a contract. -/
structure Contract where
  /-- The name. -/
  name : Json
  /-- The methods that change the state. -/
  functions : List Function
  /-- The methods that only read the state and are no accessors. -/
  constantFunctions : List Method
  /-- The accessors of single values. -/
  accessors : List Accessor
  /-- The events. -/
  events : List Event

end AbiTypings
