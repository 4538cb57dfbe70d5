/-!
Event topics of common contracts.
-/

namespace ContractWatch.Signature.Known

def events : List (String × List String) :=
  [("ddf252ad1be2c89b69c2b068fc378daa952ba7f163c4a11628f55a4df523b3ef",
    ["Transfer(address,address,uint256)"]),
   ("8c5be1e5ebec7d5bd14f71427d1e84f3dd0314c0f7b2291e5b200ac8c7c3b925",
    ["Approval(address,address,uint256)"]),
   ("8be0079c531659141344cd1fd0a4f28419497f9722a3daafe3b4186f6b6457e0",
    ["OwnershipTransferred(address,address)"]),
   ("17307eab39ab6107e8899845ad3d59bd9653f200f220920489ca2b5937696c31",
    ["ApprovalForAll(address,address,bool)"]),
   ("62e78cea01bee320cd4e420270b5ea74000d11b0c9f74754ebdbfc544b05a258",
    ["Paused(address)"]),
   ("5db9ee0a495bf2e6ff9c91a7834c1ba4fdd244a5e8aa4e537bd38aeae4b073aa",
    ["Unpaused(address)"]),
   ("2f8788117e7eff1d82e926ec794901d17c78024a50270940304540a733656f0d",
    ["RoleGranted(bytes32,address,address)"]),
   ("f6391f5c32d9c69d2a47ea670b442974b53935d1edc7fd64eb21e047a839171b",
    ["RoleRevoked(bytes32,address,address)"]),
   ("bd79b86ffe0ab8e8776151514217cd7cacd52c909f66475c3af44e129f0b00ff",
    ["RoleAdminChanged(bytes32,bytes32,bytes32)"]),
   ("bc7cd75a20ee27fd9adebab32041f755214dbc6bffa90cc0225b39da2e5c2d3b",
    ["Upgraded(address)"]),
   ("7e644d79422f17c01e4894b5f4f588d331ebfa28653d42ae832dc59e38c9798f",
    ["AdminChanged(address,address)"]),
   ("1cf3b03a6cf19fa2baba4df148e9dcabedea7f8a5c07840e207e5c089be95d3e",
    ["BeaconUpgraded(address)"]),
   ("7f26b83ff96e1f2b6a682f133852f6798a09c465da95921460cefb3847402498",
    ["Initialized(uint8)"]),
   ("c7f505b2f371ae2175ee4913f4499e1f2633a7b5936321eed1cdaeb6115181d2",
    ["Initialized(uint64)"]),
   ("e1fffcc4923d04b559f4d29a8bfc6cda04eb5b0d3c460751c2402c5c5cc9109c",
    ["Deposit(address,uint256)"]),
   ("7fcf532c15f0a6db0bd6d0e038bea71d30d808c7d98cb3bf7268a95bf5081b65",
    ["Withdrawal(address,uint256)"]),
   ("1c411e9a96e071241c2f21f7726b17ae89e3cab4c78be50e062b03a9fffbbad1",
    ["Sync(uint112,uint112)"]),
   ("d78ad95fa46c994b6551d0da85fc275fe613ce37657fb8d5e3d130840159d822",
    ["Swap(address,uint256,uint256,uint256,uint256,address)"]),
   ("4c209b5fc8ad50758f13e2e1088ba56a560dff690a1c6fef26394f4c03821c4f",
    ["Mint(address,uint256,uint256)"]),
   ("dccd412f0b1252819cb1fd330b93224ca42612892bb3f4f789976e6d81936496",
    ["Burn(address,uint256,uint256,address)"]),
   ("0d3648bd0f6ba80134a33ba9275ac585d9d315f0ad8355cddefde31afa28d0e9",
    ["PairCreated(address,address,address,uint256)"]),
   ("c3d58168c5ae7397731d063d5bbf3d657854427343f4c083240f7aacaa2d0f62",
    ["TransferSingle(address,address,address,uint256,uint256)"]),
   ("4a39dc06d4c0dbc64b70af90fd698a233a518aa5d07e595d983b8c0526c8f7fb",
    ["TransferBatch(address,address,address,uint256[],uint256[])"]),
   ("6bb7ff708619ba0610cba295a58592e0451dee2622938c8755667688daf3529b",
    ["URI(string,uint256)"]),
   ("947f344d56e1e8c70dc492fb94c4ddddd490c016aab685f5e7e47b2e85cb44cf",
    ["MaxTxAmountUpdated(uint256)"])]

end ContractWatch.Signature.Known
