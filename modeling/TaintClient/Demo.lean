/-
  The contract that comes with the program, and a call on which its multiplication overflows.
-/

namespace TaintClient

/-- The runtime bytecode of the contract. -/
def demoCode : String :=
  "608060405260043610610062576000357c010000000000000000000000000000000000000000000000000000" ++
    "0000900463ffffffff16806333a581d214610067578063710419ab14610092578063b79e70ed146100dd5780" ++
    "63c1b9e80314610128575b600080fd5b34801561007357600080fd5b5061007c610173565b60405180828152" ++
    "60200191505060405180910390f35b34801561009e57600080fd5b506100c760048036038101908080359060" ++
    "20019092919080359060200190929190505050610197565b6040518082815260200191505060405180910390" ++
    "f35b3480156100e957600080fd5b506101126004803603810190808035906020019092919080359060200190" ++
    "9291905050506101d3565b6040518082815260200191505060405180910390f35b34801561013457600080fd" ++
    "5b5061015d60048036038101908080359060200190929190803590602001909291905050506101f7565b6040" ++
    "518082815260200191505060405180910390f35b7fffffffffffffffffffffffffffffffffffffffffffffff" ++
    "ffffffffffffffffff81565b6000817fffffffffffffffffffffffffffffffffffffffffffffffffffffffff" ++
    "ffffffff038311156101c857600080fd5b818301905092915050565b6000828284011015156101ed57818301" ++
    "92508290506101f1565b8290505b92915050565b600080828401905083811015151561020b57fe5b80915050" ++
    "929150505600a165627a7a72305820fd40ac0f90592eaf3991dc1806889e89f3b6e2447ce5f5e8a2e0f25f3c" ++
    "c648910029e"

/-- The call: a selector, then 2^256 - 1 and two. -/
def demoInput : String :=
  "b79e70edffffffffffffffffffffffffffffffffffffffffffffffffffffffffffffffff" ++
    "0000000000000000000000000000000000000000000000000000000000000002"

end TaintClient
