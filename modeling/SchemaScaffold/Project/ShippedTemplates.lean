import SchemaScaffold.Project.Scaffold

/-!
# Shipped templates

The texts of the templates that come with the program, for tables and for the frame of a project.
-/

namespace SchemaScaffold
namespace Project
namespace Shipped

/-- A text of lines, each of which ends in a line feed. -/
def lines (texts : List String) : String :=
  String.join (texts.map (· ++ "\n"))

theorem toList_lines (texts : List String) :
    (lines texts).toList = texts.flatMap fun text => text.toList ++ ['\n'] := by
  simp [lines, String.toList_join, List.flatMap_map]

/-- The controller of a table. -/
def controllerText : String := lines [
  "const \x7b\x7bentity\x7d\x7dService = require('../services/\x7b\x7bentity\x7d\x7dService');",
  "",
  "function parseId(req, res) \x7b",
  "  const id = Number.parseInt(req.params.id, 10);",
  "  if (Number.isNaN(id)) \x7b",
  "    res.status(400).json(\x7b error: 'Invalid id' \x7d);",
  "    return null;",
  "  \x7d",
  "  return id;",
  "\x7d",
  "",
  "async function list(req, res, next) \x7b",
  "  try \x7b",
  "    res.json(await \x7b\x7bentity\x7d\x7dService.list());",
  "  \x7d catch (err) \x7b",
  "    next(err);",
  "  \x7d",
  "\x7d",
  "",
  "async function getById(req, res, next) \x7b",
  "  const id = parseId(req, res);",
  "  if (id === null) return;",
  "  try \x7b",
  "    const row = await \x7b\x7bentity\x7d\x7dService.getById(id);",
  "    if (!row) return res.status(404).json(\x7b error: '\x7b\x7bEntity\x7d\x7d not found' \x7d);",
  "    res.json(row);",
  "  \x7d catch (err) \x7b",
  "    next(err);",
  "  \x7d",
  "\x7d",
  "",
  "async function create(req, res, next) \x7b",
  "  try \x7b",
  "    res.status(201).json(await \x7b\x7bentity\x7d\x7dService.create(req.body));",
  "  \x7d catch (err) \x7b",
  "    next(err);",
  "  \x7d",
  "\x7d",
  "",
  "async function update(req, res, next) \x7b",
  "  const id = parseId(req, res);",
  "  if (id === null) return;",
  "  try \x7b",
  "    const row = await \x7b\x7bentity\x7d\x7dService.update(id, req.body);",
  "    if (!row) return res.status(404).json(\x7b error: '\x7b\x7bEntity\x7d\x7d not found' \x7d);",
  "    res.json(row);",
  "  \x7d catch (err) \x7b",
  "    next(err);",
  "  \x7d",
  "\x7d",
  "",
  "async function remove(req, res, next) \x7b",
  "  const id = parseId(req, res);",
  "  if (id === null) return;",
  "  try \x7b",
  "    const deleted = await \x7b\x7bentity\x7d\x7dService.remove(id);",
  "    if (!deleted) " ++
    "return res.status(404).json(\x7b error: '\x7b\x7bEntity\x7d\x7d not found' \x7d);",
  "    res.json(\x7b deleted: true \x7d);",
  "  \x7d catch (err) \x7b",
  "    next(err);",
  "  \x7d",
  "\x7d",
  "",
  "module.exports = \x7b list, getById, create, update, remove \x7d;"]

/-- The service of a table. -/
def serviceText : String := lines [
  "const \x7b\x7bentity\x7d\x7dRepository = " ++
    "require('../repositories/\x7b\x7bentity\x7d\x7dRepository');",
  "",
  "const list = () => \x7b\x7bentity\x7d\x7dRepository.findAll();",
  "const getById = (id) => \x7b\x7bentity\x7d\x7dRepository.findById(id);",
  "const create = (data) => \x7b\x7bentity\x7d\x7dRepository.create(data);",
  "const update = (id, data) => \x7b\x7bentity\x7d\x7dRepository.update(id, data);",
  "const remove = (id) => \x7b\x7bentity\x7d\x7dRepository.remove(id);",
  "",
  "module.exports = \x7b list, getById, create, update, remove \x7d;"]

/-- The repository of a table. -/
def repositoryText : String := lines [
  "const pool = require('../db/pool');",
  "",
  "const TABLE = '\x7b\x7btable\x7d\x7d';",
  "",
  "async function findAll() \x7b",
  "  const [rows] = await pool.query(`SELECT * FROM \\`$\x7bTABLE\x7d\\``);",
  "  return rows;",
  "\x7d",
  "",
  "async function findById(id) \x7b",
  "  const [rows] = await pool.query(`SELECT * FROM \\`$\x7bTABLE\x7d\\` WHERE id = ?`, [id]);",
  "  return rows[0] || null;",
  "\x7d",
  "",
  "async function create(data) \x7b",
  "  const [result] = await pool.query(`INSERT INTO \\`$\x7bTABLE\x7d\\` SET ?`, [data]);",
  "  return findById(result.insertId);",
  "\x7d",
  "",
  "async function update(id, data) \x7b",
  "  const [result] = await pool.query(" ++
    "`UPDATE \\`$\x7bTABLE\x7d\\` SET ? WHERE id = ?`, [data, id]);",
  "  if (result.affectedRows === 0) return null;",
  "  return findById(id);",
  "\x7d",
  "",
  "async function remove(id) \x7b",
  "  const [result] = await pool.query(`DELETE FROM \\`$\x7bTABLE\x7d\\` WHERE id = ?`, [id]);",
  "  return result.affectedRows > 0;",
  "\x7d",
  "",
  "module.exports = \x7b findAll, findById, create, update, remove \x7d;"]

/-- The routes of a table. -/
def routesText : String := lines [
  "const express = require('express');",
  "const \x7b\x7bentity\x7d\x7dController = " ++
    "require('../controllers/\x7b\x7bentity\x7d\x7dController');",
  "",
  "const router = express.Router();",
  "",
  "router.get('/', \x7b\x7bentity\x7d\x7dController.list);",
  "router.get('/:id', \x7b\x7bentity\x7d\x7dController.getById);",
  "router.post('/', \x7b\x7bentity\x7d\x7dController.create);",
  "router.put('/:id', \x7b\x7bentity\x7d\x7dController.update);",
  "router.delete('/:id', \x7b\x7bentity\x7d\x7dController.remove);",
  "",
  "module.exports = router;"]

/-- The connection pool. -/
def poolText : String := lines [
  "const mysql = require('mysql2/promise');",
  "require('dotenv').config();",
  "",
  "const pool = mysql.createPool(\x7b",
  "  host: process.env.DB_HOST,",
  "  port: Number(process.env.DB_PORT || 3306),",
  "  user: process.env.DB_USER,",
  "  password: process.env.DB_PASSWORD,",
  "  database: process.env.DB_NAME,",
  "  waitForConnections: true,",
  "  connectionLimit: 10,",
  "\x7d);",
  "",
  "module.exports = pool;"]

/-- The server. -/
def serverText : String := lines [
  "require('dotenv').config();",
  "const app = require('./src/app');",
  "",
  "const port = Number(process.env.PORT || 3000);",
  "",
  "app.listen(port, () => \x7b",
  "  console.log(`Server listening on port $\x7bport\x7d`);",
  "\x7d);"]

/-- The manifest. -/
def packageText : String := lines [
  "\x7b",
  "  \"name\": \"backend-api\",",
  "  \"version\": \"1.0.0\",",
  "  \"private\": true,",
  "  \"main\": \"server.js\",",
  "  \"scripts\": \x7b",
  "    \"start\": \"node server.js\",",
  "    \"dev\": \"node --watch server.js\"",
  "  \x7d,",
  "  \"dependencies\": \x7b",
  "    \"dotenv\": \"^16.4.5\",",
  "    \"express\": \"^4.19.2\",",
  "    \"mysql2\": \"^3.10.0\"",
  "  \x7d",
  "\x7d"]

/-- The notes for readers. -/
def readmeText : String := lines [
  "# Backend API",
  "",
  "Express backend skeleton. Run `npm install` and then `npm run dev`."]

/-- The application. -/
def appText : String := lines [
  "const express = require('express');",
  "const routes = require('./routes');",
  "const notFound = require('./middlewares/notFound');",
  "const errorHandler = require('./middlewares/errorHandler');",
  "",
  "const app = express();",
  "",
  "app.use(express.json());",
  "",
  "app.get('/health', (req, res) => res.json(\x7b status: 'ok' \x7d));",
  "app.use('/', routes);",
  "",
  "app.use(notFound);",
  "app.use(errorHandler);",
  "",
  "module.exports = app;"]

/-- The routes index. -/
def indexText : String := lines [
  "const express = require('express');",
  "const router = express.Router();",
  "",
  "module.exports = router;"]

/-- The check of who asks. -/
def authText : String := lines [
  "module.exports = function auth(req, res, next) \x7b",
  "  next();",
  "\x7d;"]

/-- The handler of errors. -/
def errorHandlerText : String := lines [
  "module.exports = function errorHandler(err, req, res, next) \x7b",
  "  console.error(err);",
  "  res.status(err.status || 500).json(\x7b error: 'Internal Server Error' \x7d);",
  "\x7d;"]

/-- The handler of unknown paths. -/
def notFoundText : String := lines [
  "module.exports = function notFound(req, res) \x7b",
  "  res.status(404).json(\x7b error: 'Not found' \x7d);",
  "\x7d;"]

/-- The templates for tables and that of the pool, with their texts. -/
def tableTexts : List (TemplateFile × String) :=
  (tableTemplates ++ [poolTemplate]).zip
    [controllerText, serviceText, repositoryText, routesText, poolText]

/-- The templates for the frame, with their texts. -/
def frameTexts : List (TemplateFile × String) :=
  baseTemplates.zip [serverText, packageText, readmeText, appText, indexText, authText,
    errorHandlerText, notFoundText]

end Shipped
end Project
end SchemaScaffold
