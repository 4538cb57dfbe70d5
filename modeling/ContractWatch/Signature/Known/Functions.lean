/-!
Function selectors of common contracts.
-/

namespace ContractWatch.Signature.Known

def functions : List (String × List String) :=
  [("a9059cbb", ["transfer(address,uint256)"]),
   ("095ea7b3", ["approve(address,uint256)"]),
   ("23b872dd", ["transferFrom(address,address,uint256)", "gasprice_bit_ether(int128)"]),
   ("70a08231", ["balanceOf(address)"]),
   ("18160ddd", ["totalSupply()"]),
   ("dd62ed3e", ["allowance(address,address)"]),
   ("06fdde03", ["name()"]),
   ("95d89b41", ["symbol()"]),
   ("313ce567", ["decimals()"]),
   ("8da5cb5b", ["owner()"]),
   ("715018a6", ["renounceOwnership()"]),
   ("f2fde38b", ["transferOwnership(address)"]),
   ("42966c68", ["burn(uint256)", "collate_propagate_storage(bytes16)"]),
   ("79cc6790", ["burnFrom(address,uint256)"]),
   ("40c10f19", ["mint(address,uint256)"]),
   ("39509351", ["increaseAllowance(address,uint256)"]),
   ("a457c2d7", ["decreaseAllowance(address,uint256)"]),
   ("d505accf", ["permit(address,address,uint256,uint256,uint8,bytes32,bytes32)"]),
   ("7ecebe00", ["nonces(address)"]),
   ("3644e515", ["DOMAIN_SEPARATOR()"]),
   ("8456cb59", ["pause()"]),
   ("3f4ba83a", ["unpause()"]),
   ("5c975abb", ["paused()"]),
   ("01ffc9a7", ["supportsInterface(bytes4)"]),
   ("6352211e", ["ownerOf(uint256)"]),
   ("42842e0e", ["safeTransferFrom(address,address,uint256)"]),
   ("b88d4fde", ["safeTransferFrom(address,address,uint256,bytes)"]),
   ("a22cb465", ["setApprovalForAll(address,bool)"]),
   ("e985e9c5", ["isApprovedForAll(address,address)"]),
   ("081812fc", ["getApproved(uint256)"]),
   ("c87b56dd", ["tokenURI(uint256)"]),
   ("150b7a02", ["onERC721Received(address,address,uint256,bytes)"]),
   ("91d14854", ["hasRole(bytes32,address)"]),
   ("2f2ff15d", ["grantRole(bytes32,address)"]),
   ("d547741f", ["revokeRole(bytes32,address)"]),
   ("36568abe", ["renounceRole(bytes32,address)"]),
   ("248a9ca3", ["getRoleAdmin(bytes32)"]),
   ("3659cfe6", ["upgradeTo(address)"]),
   ("4f1ef286", ["upgradeToAndCall(address,bytes)"]),
   ("5c60da1b", ["implementation()"]),
   ("8129fc1c", ["initialize()"]),
   ("ac9650d8", ["multicall(bytes[])"]),
   ("3593564c", ["execute(bytes,bytes[],uint256)"]),
   ("38ed1739", ["swapExactTokensForTokens(uint256,uint256,address[],address,uint256)"]),
   ("7ff36ab5", ["swapExactETHForTokens(uint256,address[],address,uint256)"]),
   ("18cbafe5", ["swapExactTokensForETH(uint256,uint256,address[],address,uint256)"]),
   ("0902f1ac", ["getReserves()"]),
   ("0dfe1681", ["token0()"]),
   ("d21220a7", ["token1()"]),
   ("c45a0155", ["factory()"]),
   ("ad5c4648", ["WETH()"]),
   ("d0e30db0", ["deposit()"]),
   ("2e1a7d4d", ["withdraw(uint256)"]),
   ("d06ca61f", ["getAmountsOut(uint256,address[])"]),
   ("e8e33700", ["addLiquidity(address,address,uint256,uint256,uint256,uint256,address,uint256)"]),
   ("f305d719", ["addLiquidityETH(address,uint256,uint256,uint256,address,uint256)"]),
   ("c9c65396", ["createPair(address,address)"]),
   ("e6a43905", ["getPair(address,address)"]),
   ("fff6cae9", ["sync()"]),
   ("bc25cf77", ["skim(address)"]),
   ("022c0d9f", ["swap(uint256,uint256,address,bytes)"]),
   ("f46901ed", ["setFeeTo(address)"]),
   ("437823ec", ["excludeFromFee(address)"]),
   ("ea2f0b37", ["includeInFee(address)"]),
   ("ec28438a", ["setMaxTxAmount(uint256)"]),
   ("c9567bf9", ["openTrading()"]),
   ("c3c8cd80", ["manualswap()"]),
   ("6fc3eaec", ["manualsend()"]),
   ("751039fc", ["removeLimits()"])]

end ContractWatch.Signature.Known
